/-
  AccessService.Authorization.QueueDraining

  `authorization.handler.ts`: each AUTHORIZATION_SYNC_REQUESTED message makes the worker run
  once for the tenant it names.  Where no call runs into anything, a run ends the job that
  comes first, COMPLETED or FAILED, with its one event, and touches no other job; so as many
  messages as a tenant has PENDING jobs drain its queue, in the claim order, whatever the
  messages of other tenants between them (`messages_drain`).
-/

import AccessService.Authorization.JobSuccess

namespace AccessService.Authorization

open AccessService.Lib AccessService.Pg AccessService.Persistence AccessService.UserGroups

-- ============================================================================
-- What is drained
-- ============================================================================

/-- The jobs that have been ended between two states, in the order of their events: each was
    PENDING and has the status its event tells, no other job has changed, and no job has
    been ended before one of its tenant that comes first. -/
structure Drained (s s' : Store) (ended : List SyncEvent) : Prop where
  outbox : s'.db.outbox = s.db.outbox ++ ended.map .sync
  distinct : (ended.map SyncEvent.jobId).Nodup
  job : ∀ event ∈ ended, ∃ job job' : AuthorizationSyncJob,
    s.db.jobs[event.jobId]? = some job ∧ job.status = .PENDING ∧
      s'.db.jobs[event.jobId]? = some job' ∧ job'.request = job.request ∧
      event = .ofJob event.type event.jobId job ∧
      AuthorizationReconciliationWorker.finalEvent job'.status = some event.type
  others : ∀ id ∉ ended.map SyncEvent.jobId, s'.db.jobs[id]? = s.db.jobs[id]?
  order : ended.Pairwise fun first later => ∀ job job' : AuthorizationSyncJob,
    s.db.jobs[first.jobId]? = some job → s.db.jobs[later.jobId]? = some job' →
      job'.tenantCode = job.tenantCode → job'.before job = false

namespace Drained

open AuthorizationReconciliationWorker

variable {s s₁ s' : Store} {ended : List SyncEvent} {event : SyncEvent}

theorem nil (h : s'.db.jobs = s.db.jobs) (houtbox : s'.db.outbox = s.db.outbox) :
    Drained s s' [] where
  outbox := by rw [houtbox, List.map_nil, List.append_nil]
  distinct := List.nodup_nil
  job _ hmem := absurd hmem List.not_mem_nil
  others _ _ := by rw [h]
  order := .nil

theorem one {id : JobId} {job : AuthorizationSyncJob} {type : SyncEventType}
    (hbesides : s'.db.jobs.besides id = s.db.jobs.besides id) (hjob : s.db.jobs[id]? = some job)
    (hpending : job.status = .PENDING)
    (houtbox : s'.db.outbox = s.db.outbox ++ [.sync (.ofJob type id job)])
    (hfinal : (s'.db.jobs.statusOf id).bind finalEvent = some type) :
    Drained s s' [.ofJob type id job] where
  outbox := houtbox
  distinct := List.nodup_singleton _
  job event hmem := by
    obtain rfl := List.mem_singleton.mp hmem
    obtain ⟨job', hjob', hrequest⟩ := JobTable.besides_row hbesides hjob
    rw [JobTable.statusOf, hjob'] at hfinal
    exact ⟨job, job', hjob, hpending, hjob', hrequest, rfl, hfinal⟩
  others id' hid := by
    rw [List.map_singleton, List.mem_singleton] at hid
    exact JobTable.besides_other hbesides hid
  order := List.pairwise_singleton _ _

/-- The tables are all that counts. -/
theorem congr {r r' : Store} (h : Drained r r' ended) (hs : r.db = s.db) (hs' : s'.db = r'.db) :
    Drained s s' ended := by
  refine ⟨?_, h.distinct, ?_, ?_, ?_⟩
  · rw [hs', ← hs, h.outbox]
  · rw [hs', ← hs]
    exact h.job
  · rw [hs', ← hs]
    exact h.others
  · rw [← hs]
    exact h.order

/-- One job first, then others. -/
theorem cons {tenantCode : String} (hfirst : s.db.jobs.isNextPending tenantCode event.jobId = true)
    (hone : Drained s s₁ [event]) (hrest : Drained s₁ s' ended) :
    Drained s s' (event :: ended) := by
  obtain ⟨job, job₁, hjob, hpending, hjob₁, hrequest, hevent, hfinal⟩ :=
    hone.job event (List.mem_singleton_self event)
  have hkept : ∀ id, id ≠ event.jobId → s₁.db.jobs[id]? = s.db.jobs[id]? := fun id hne =>
    hone.others id (by rwa [List.map_singleton, List.mem_singleton])
  have hnew : ∀ other ∈ ended, other.jobId ≠ event.jobId := by
    intro other hother heq
    obtain ⟨row, row', hrow, hpending', -⟩ := hrest.job other hother
    rw [heq, hjob₁] at hrow
    obtain rfl := Option.some.inj hrow
    rw [hpending'] at hfinal
    cases hfinal
  refine ⟨?_, ?_, ?_, ?_, ?_⟩
  · rw [hrest.outbox, hone.outbox, List.append_assoc]
    rfl
  · refine List.nodup_cons.mpr ⟨fun hmem => ?_, hrest.distinct⟩
    obtain ⟨other, hother, heq⟩ := List.mem_map.mp hmem
    exact hnew other hother heq
  · intro other hother
    rcases List.mem_cons.mp hother with rfl | hother
    · refine ⟨job, job₁, hjob, hpending, ?_, hrequest, hevent, hfinal⟩
      rw [hrest.others other.jobId, hjob₁]
      intro hmem
      obtain ⟨again, hagain, heq⟩ := List.mem_map.mp hmem
      exact hnew again hagain heq
    · obtain ⟨row, row', hrow, hrest'⟩ := hrest.job other hother
      exact ⟨row, row', (hkept _ (hnew other hother)).symm.trans hrow, hrest'⟩
  · intro id hid
    rw [List.map_cons, List.mem_cons, not_or] at hid
    rw [hrest.others id hid.2, hkept id hid.1]
  · obtain ⟨row, hrow, hmine, hleast⟩ := JobTable.isNextPending_job hfirst
    obtain rfl := Option.some.inj (hjob.symm.trans hrow)
    simp only [AuthorizationSyncJob.pendingFor, Bool.and_eq_true, decide_eq_true_eq] at hmine hleast
    refine .cons ?_ ?_
    · intro other hother row row' hrow' hrow'' htenant
      obtain rfl := Option.some.inj (hjob.symm.trans hrow')
      obtain ⟨was, -, hwas, hwaiting, -⟩ := hrest.job other hother
      rw [hkept _ (hnew other hother)] at hwas
      obtain rfl := Option.some.inj (hwas.symm.trans hrow'')
      exact hleast was (Lib.Rows.mem_of_row hwas) ⟨htenant.trans hmine.1, hwaiting⟩
    · refine hrest.order.imp_of_mem ?_
      intro first later hfirst' hlater horder row row' hrow' hrow''
      rw [← hkept _ (hnew first hfirst')] at hrow'
      rw [← hkept _ (hnew later hlater)] at hrow''
      exact horder row row' hrow' hrow''

/-- Ended jobs are not in flight. -/
theorem unique (h : Drained s s' ended) (hunique : s.db.jobs.InFlightUnique) :
    s'.db.jobs.InFlightUnique := by
  have hkept : ∀ (i : JobId) (row : AuthorizationSyncJob), s'.db.jobs[i]? = some row →
      row.status.inFlight = true → s.db.jobs[i]? = some row := by
    intro i row hrow hflight
    rw [← h.others i, hrow]
    intro hmem
    obtain ⟨event, hevent, rfl⟩ := List.mem_map.mp hmem
    obtain ⟨-, row', -, -, hrow', -, -, hfinal⟩ := h.job event hevent
    obtain rfl := Option.some.inj (hrow.symm.trans hrow')
    cases hstatus : row.status with
    | PENDING | PROCESSING =>
      rw [hstatus] at hfinal
      cases hfinal
    | COMPLETED | FAILED =>
      rw [hstatus] at hflight
      cases hflight
  intro i j a b hi hj ha hb hkey
  exact hunique i j a b (hkept i a hi ha) (hkept j b hj hb) ha hb hkey

end Drained

/-- What the end of a job tells the sources: its own, at most, the job's version, and that
    when it is COMPLETED, as it is where the groups are well formed. -/
structure Told (uuid : UuidInput) (columns : UserGroupMatchingEngine.ColumnTypes) (s s' : Store)
    (event : SyncEvent) : Prop where
  atMost : ToldAtMost event.tenantCode event.source event.sourceVersion
    (AuthorizationSyncService.versionsOf s.db) s'
  completed : event.type = .AUTHORIZATION_SYNC_COMPLETED → ∀ versions,
    AuthorizationSyncService.versionsOf s'.db event.tenantCode event.source = some versions →
      versions.projectionVersion = event.sourceVersion
  succeeds : WellConfigured uuid columns s.db →
    event.type = .AUTHORIZATION_SYNC_COMPLETED ∧ WellConfigured uuid columns s'.db

/-- How many jobs of the tenant wait. -/
def pendingCount (jobs : JobTable) (tenantCode : String) : Nat :=
  jobs.countP (AuthorizationSyncJob.pendingFor tenantCode)

theorem pendingCount_eq_zero {jobs : JobTable} {tenantCode : String} :
    pendingCount jobs tenantCode = 0 ↔ jobs.hasPending tenantCode = false := by
  rw [pendingCount, List.countP_eq_zero, JobTable.hasPending, List.any_eq_false]

/-- A job that waits for a tenant is one of the tenant's. -/
theorem pendingCount_le (jobs : JobTable) (tenantCode : String) :
    pendingCount jobs tenantCode ≤ (jobs.map AuthorizationSyncJob.tenantCode).count tenantCode := by
  rw [List.count, List.countP_map]
  refine List.countP_mono_left fun job _ hpending => ?_
  simp only [AuthorizationSyncJob.pendingFor, Bool.and_eq_true, decide_eq_true_eq] at hpending
  exact beq_iff_eq.mpr hpending.1

/-- The job that has been ended waits no longer; the others of the tenant, and those of
    other tenants, still do. -/
theorem pendingCount_drained {s s' : Store} {event : SyncEvent} {tenantCode : String}
    (hnext : s.db.jobs.isNextPending tenantCode event.jobId = true)
    (h : Drained s s' [event]) (tenantCode' : String) :
    pendingCount s'.db.jobs tenantCode' =
      pendingCount s.db.jobs tenantCode' - if tenantCode' = tenantCode then 1 else 0 := by
  obtain ⟨job, job', hjob, -, hjob', -, -, hfinal⟩ := h.job event (List.mem_singleton_self event)
  obtain ⟨row, hrow, hmine, -⟩ := JobTable.isNextPending_job hnext
  obtain rfl := Option.some.inj (hjob.symm.trans hrow)
  obtain ⟨hlt, hget⟩ := List.getElem?_eq_some_iff.mp hjob
  have hset : s'.db.jobs = s.db.jobs.set event.jobId job' := by
    refine List.ext_getElem? fun i => ?_
    by_cases hi : i = event.jobId
    · rw [hi, hjob', Lib.Rows.getElem?_set_self hjob]
    · rw [Lib.Rows.getElem?_set_ne hi, h.others i (by rwa [List.map_singleton,
        List.mem_singleton])]
  have hended : job'.pendingFor tenantCode' = false := by
    cases hstatus : job'.status with
    | PENDING =>
      rw [hstatus] at hfinal
      cases hfinal
    | PROCESSING | COMPLETED | FAILED =>
      rw [AuthorizationSyncJob.pendingFor, hstatus]
      exact Bool.and_false _
  simp only [AuthorizationSyncJob.pendingFor, Bool.and_eq_true, decide_eq_true_eq] at hmine
  have hwas : job.pendingFor tenantCode' = decide (tenantCode' = tenantCode) := by
    rw [AuthorizationSyncJob.pendingFor, hmine.2, ← hmine.1]
    simp only [decide_true, Bool.and_true, eq_comm]
  rw [pendingCount, hset, List.countP_set hlt, hget, hended, hwas]
  simp only [decide_eq_true_eq, Bool.false_eq_true, if_false, Nat.add_zero]
  rfl

/-- Runs of the worker one after the other, by the events of the jobs they end. -/
inductive Drains (uuid : UuidInput) (columns : UserGroupMatchingEngine.ColumnTypes) :
    Store → Store → List SyncEvent → Prop where
  | idle {s s' : Store} (h : s'.db = s.db) : Drains uuid columns s s' []
  | ends {s s₁ s' : Store} {event : SyncEvent} {ended : List SyncEvent} (tenantCode : String)
      (hfirst : s.db.jobs.isNextPending tenantCode event.jobId = true)
      (hone : Drained s s₁ [event]) (htold : Told uuid columns s s₁ event)
      (hrest : Drains uuid columns s₁ s' ended) : Drains uuid columns s s' (event :: ended)

section Drains

variable {uuid : UuidInput} {columns : UserGroupMatchingEngine.ColumnTypes} {s s₁ s' : Store}
  {ended : List SyncEvent}

theorem Drains.drained (h : Drains uuid columns s s' ended) :
    Drained s s' ended := by
  induction h with
  | idle h => exact .nil (by rw [h]) (by rw [h])
  | ends tenantCode hfirst hone _ _ ih => exact .cons hfirst hone ih

theorem Drains.after_idle (hdb : s₁.db = s.db) (h : Drains uuid columns s₁ s' ended) :
    Drains uuid columns s s' ended := by
  cases h with
  | idle h => exact .idle (h.trans hdb)
  | ends tenantCode hfirst hone htold hrest =>
    refine .ends tenantCode (hdb ▸ hfirst) (hone.congr hdb rfl) ⟨?_, htold.completed, ?_⟩ hrest
    · rw [← hdb]
      exact htold.atMost
    · rw [← hdb]
      exact htold.succeeds

/-- Where the groups are well formed no job fails. -/
theorem Drains.succeeds (h : Drains uuid columns s s' ended)
    (hwell : WellConfigured uuid columns s.db) :
    ∀ event ∈ ended, event.type = .AUTHORIZATION_SYNC_COMPLETED := by
  induction h with
  | idle _ => exact fun _ hmem => absurd hmem List.not_mem_nil
  | ends tenantCode hfirst hone htold hrest ih =>
    obtain ⟨hcompleted, hwell'⟩ := htold.succeeds hwell
    exact List.forall_mem_cons.mpr ⟨hcompleted, ih hwell'⟩

end Drains

namespace AuthorizationReconciliationWorker

variable {ctx : WorkerContext} {tenantCode : String} {w : World Store Failure} {session : Session}

/-- The store once the worker has its lock and has claimed the job. -/
def claimedStore (s : Store) (tenantCode : String) (session : Session) (id : JobId)
    (job : AuthorizationSyncJob) : Store :=
  { s with
    db := { s.db with jobs := s.db.jobs.set id (job.claimed s.now) }
    locks := s.locks.set (workerLockId tenantCode) (some ⟨session, 0⟩) }

/-- Under a free lock an undisturbed worker finds nothing that waits, or claims the job that
    comes first and runs it, with what follows a failure. -/
theorem processNextJob_claims (ctx : WorkerContext) (hsession : ctx.session = some session)
    (hquiet : Faulty.Quiet w) (hunique : w.state.db.jobs.InFlightUnique)
    (hfree : w.state.locks (workerLockId tenantCode) = none) :
    (w.state.db.jobs.hasPending tenantCode = false ∧ ∃ w', Faulty.Quiet w' ∧
        w'.state = w.state ∧ processNextJob ctx tenantCode w = (.ok false, w')) ∨
      ∃ id job w₁, w.state.db.jobs[id]? = some job ∧ job.status = .PENDING ∧
        w.state.db.jobs.isNextPending tenantCode id = true ∧ Faulty.Quiet w₁ ∧
        w₁.state = claimedStore w.state tenantCode session id job ∧
        ∀ w₂, Faulty.tryCatch (executeJob ctx id { job with
            status := .PROCESSING, startedAt := some w.state.now })
            (fun _ => handleJobFailure id { job with
              status := .PROCESSING, startedAt := some w.state.now }) w₁ = (.ok (), w₂) →
          w₂.state.locks = w₁.state.locks →
          processNextJob ctx tenantCode w =
            (.ok true, { w₂ with state := { w₂.state with locks := w.state.locks } }) := by
  obtain ⟨locked, hlocked⟩ : ∃ locked : World Store Failure, locked = { w with state := { w.state
      with locks := w.state.locks.set (workerLockId tenantCode) (some ⟨session, 0⟩) } } :=
    ⟨_, rfl⟩
  have hdb : locked.state.db = w.state.db := by rw [hlocked]
  have hnow : locked.state.now = w.state.now := by rw [hlocked]
  have hlocks : locked.state.locks =
      w.state.locks.set (workerLockId tenantCode) (some ⟨session, 0⟩) := by rw [hlocked]
  have hquiet₁ : Faulty.Quiet locked := by rwa [hlocked]
  rw [← hdb] at hunique
  rcases claim_runs ctx tenantCode hquiet₁ hunique with
    ⟨hnone, w₁, hquiet₂, hstate, hclaim⟩ |
    ⟨id, job, w₁, hjob, hpending, hnext, hquiet₂, hstate, hclaim⟩
  · have hrun : processClaimedJob ctx tenantCode locked = (.ok false, w₁) := Faulty.bind_runs hclaim
    rw [← hstate] at hlocks
    refine .inl ⟨hdb ▸ hnone, _, ?_, ?_, processNextJob_runs hsession hfree hlocked hrun hlocks⟩
    · exact hquiet₂
    · rw [hstate, hlocked]
  · rw [hdb] at hjob hnext
    rw [hnow] at hclaim
    refine .inr ⟨id, job, w₁, hjob, hpending, hnext, hquiet₂, ?_, fun w₂ hends hkept => ?_⟩
    · rw [hstate, hlocked]
      rfl
    · have hrun : processClaimedJob ctx tenantCode locked = (.ok true, w₂) := by
        rw [processClaimedJob, Faulty.bind_runs hclaim]
        exact Faulty.bind_runs hends
      refine processNextJob_runs hsession hfree hlocked hrun ?_
      rw [hkept, hstate, ← hlocks]

/-- A job that waits for the tenant is the tenant's. -/
theorem nextPending_tenant {id : JobId} {job : AuthorizationSyncJob}
    (hnext : w.state.db.jobs.isNextPending tenantCode id = true)
    (hjob : w.state.db.jobs[id]? = some job) : job.tenantCode = tenantCode := by
  obtain ⟨row, hrow, hpendingFor, -⟩ := JobTable.isNextPending_job hnext
  obtain rfl := Option.some.inj (hjob.symm.trans hrow)
  simp only [AuthorizationSyncJob.pendingFor, Bool.and_eq_true, decide_eq_true_eq] at hpendingFor
  exact hpendingFor.1

/-- A claim is no violation, so the claimed job can be run. -/
theorem claimedStore_ready {ctx : WorkerContext} {s : Store} {id : JobId}
    {job : AuthorizationSyncJob} (hunique : s.db.jobs.InFlightUnique)
    (hjob : s.db.jobs[id]? = some job) (hpending : job.status = .PENDING)
    (hwell : WellConfigured ctx.uuid ctx.columns s.db) :
    Ready ctx.toContext (claimedStore s tenantCode session id job) :=
  ⟨hwell, JobTable.update_unique (claimed_update s.now hunique hjob hpending) hunique⟩

/-- An undisturbed run of the worker under a free lock ends the job that comes first, if
    there is one, and else changes nothing. -/
theorem processNextJob_drains (ctx : WorkerContext) (hsession : ctx.session = some session)
    (htenant : ctx.tenantCode = tenantCode) (hquiet : Faulty.Quiet w)
    (hunique : w.state.db.jobs.InFlightUnique)
    (hfree : w.state.locks (workerLockId tenantCode) = none) :
    (w.state.db.jobs.hasPending tenantCode = false ∧ ∃ w', Faulty.Quiet w' ∧
        w'.state = w.state ∧ processNextJob ctx tenantCode w = (.ok false, w')) ∨
      ∃ event w', w.state.db.jobs.isNextPending tenantCode event.jobId = true ∧
        Drained w.state w'.state [event] ∧ Told ctx.uuid ctx.columns w.state w'.state event ∧
        Faulty.Quiet w' ∧ w'.state.locks = w.state.locks ∧
        processNextJob ctx tenantCode w = (.ok true, w') := by
  rcases processNextJob_claims ctx hsession hquiet hunique hfree with
    hidle | ⟨id, job, w₁, hjob, hpending, hnext, hquiet₁, hstate, hends⟩
  · exact .inl hidle
  · have hrow : id < w₁.state.db.jobs.length := by
      rw [hstate]
      exact List.length_set.symm ▸ (List.getElem?_eq_some_iff.mp hjob).1
    have hmine : job.tenantCode = ctx.tenantCode :=
      (nextPending_tenant hnext hjob).trans htenant.symm
    obtain ⟨type, w₂, hrun, hquiet₂, hended, hreturned⟩ := executeJob_ends ctx { job with
      status := .PROCESSING, startedAt := some w.state.now } hquiet₁ hrow hmine
    obtain ⟨hjobs, hkept⟩ := Prod.mk.inj hended.others
    have hclaimed : w₁.state.db.jobs.besides id = w.state.db.jobs.besides id := by
      rw [hstate]
      exact JobTable.update_besides (AuthorizationSyncJob.claimed_request w.state.now)
        (claimed_update _ hunique hjob hpending)
    have hdrained : Drained w.state w₂.state [.ofJob type id job] := by
      refine Drained.one (hjobs.trans hclaimed) hjob hpending ?_ hended.status
      rw [hended.outbox, hstate]
      rfl
    have hversions : AuthorizationSyncService.versionsOf w₁.state.db =
        AuthorizationSyncService.versionsOf w.state.db := by
      refine versionsOf_sources ?_
      rw [hstate]
      rfl
    have htold : Told ctx.uuid ctx.columns w.state w₂.state (.ofJob type id job) := by
      refine ⟨?_, ?_, fun hwell => ?_⟩
      · have hmost := hended.told
        rw [hversions, ← hmine] at hmost
        exact hmost
      · have hcompleted := hended.completed
        rw [← hmine] at hcompleted
        exact hcompleted
      · have hready : Ready ctx.toContext w₁.state := by
          rw [hstate]
          exact claimedStore_ready hunique hjob hpending hwell
        obtain ⟨u, w₃, hok, -, hready'⟩ := executeJob_succeeds ctx id { job with
          status := .PROCESSING, startedAt := some w.state.now } hmine w₁ hquiet₁ hready
        obtain ⟨rfl, rfl⟩ := hreturned w₃ hok
        exact ⟨rfl, hready'.groups⟩
    exact .inr ⟨.ofJob type id job, { w₂ with state := { w₂.state with locks := w.state.locks } },
      hnext, hdrained.congr rfl rfl, ⟨htold.atMost, htold.completed, htold.succeeds⟩, hquiet₂, rfl,
      hends w₂ hrun hkept⟩

end AuthorizationReconciliationWorker

-- ============================================================================
-- The messages
-- ============================================================================

/-- Of the payload of an AUTHORIZATION_SYNC_REQUESTED message, what the handler acts on. -/
structure AuthorizationSyncRequestedPayload where
  tenantCode : Option String
  deriving DecidableEq

/-- The tenant a message makes the worker run for. -/
def tenantAsked (payload : Option AuthorizationSyncRequestedPayload) : Option String :=
  (payload.bind AuthorizationSyncRequestedPayload.tenantCode).filter fun code => code ≠ ""

namespace AuthorizationHandler

open AuthorizationReconciliationWorker

/-- The worker runs in a request context of the tenant. -/
def handleAuthorizationSyncRequested (ctx : WorkerContext)
    (payload : Option AuthorizationSyncRequestedPayload) : Service Unit :=
  match tenantAsked payload with
  | none => pure ()
  | some tenantCode => do
    let _ ← processNextJob { ctx with tenantCode := tenantCode } tenantCode
    pure ()

variable {session : Session}

/-- One message ends the job of its tenant that comes first, if one is PENDING. -/
theorem message_drains (ctx : WorkerContext) (hsession : ctx.session = some session)
    (message : Option AuthorizationSyncRequestedPayload) {w : World Store Failure}
    (hquiet : Faulty.Quiet w) (hunique : w.state.db.jobs.InFlightUnique)
    (hfree : ∀ tenantCode, w.state.locks (workerLockId tenantCode) = none) :
    ∃ w', handleAuthorizationSyncRequested ctx message w = (.ok (), w') ∧ Faulty.Quiet w' ∧
      w'.state.locks = w.state.locks ∧
      (∀ tenantCode, pendingCount w'.state.db.jobs tenantCode =
        pendingCount w.state.db.jobs tenantCode -
          if some tenantCode = tenantAsked message then 1 else 0) ∧
      (w'.state.db = w.state.db ∨ ∃ event tenantCode,
        w.state.db.jobs.isNextPending tenantCode event.jobId = true ∧
          Drained w.state w'.state [event] ∧ Told ctx.uuid ctx.columns w.state w'.state event) := by
  rw [handleAuthorizationSyncRequested]
  rcases tenantAsked message with _ | tenantCode
  · exact ⟨w, rfl, hquiet, rfl, fun _ => rfl, .inl rfl⟩
  · simp only [Option.some.injEq]
    rcases processNextJob_drains { ctx with tenantCode := tenantCode } hsession rfl hquiet
        hunique (hfree tenantCode) with
      ⟨hnone, w', hquiet', hstate, hrun⟩ | ⟨event, w', hnext, hone, htold, hquiet', hlocks, hrun⟩
    · refine ⟨w', Faulty.bind_runs hrun, hquiet', by rw [hstate], fun other => ?_,
        .inl (by rw [hstate])⟩
      rw [hstate]
      split
      next heq => rw [heq, pendingCount_eq_zero.mpr hnone]
      · rfl
    · exact ⟨w', Faulty.bind_runs hrun, hquiet', hlocks, pendingCount_drained hnext hone,
        .inr ⟨event, tenantCode, hnext, hone, htold⟩⟩

theorem messages_run (ctx : WorkerContext) (hsession : ctx.session = some session)
    (messages : List (Option AuthorizationSyncRequestedPayload)) (w : World Store Failure)
    (hquiet : Faulty.Quiet w) (hunique : w.state.db.jobs.InFlightUnique)
    (hfree : ∀ tenantCode, w.state.locks (workerLockId tenantCode) = none) :
    ∃ ended w', Faulty.forEach (handleAuthorizationSyncRequested ctx) messages w = (.ok (), w') ∧
      Drains ctx.uuid ctx.columns w.state w'.state ended ∧ w'.state.locks = w.state.locks ∧
      ∀ tenantCode, pendingCount w'.state.db.jobs tenantCode =
        pendingCount w.state.db.jobs tenantCode -
          (messages.map tenantAsked).count (some tenantCode) := by
  induction messages generalizing w with
  | nil => exact ⟨[], w, rfl, .idle rfl, rfl, fun _ => rfl⟩
  | cons message messages ih =>
    obtain ⟨w₁, hhandled, hquiet₁, hlocks₁, hcount₁, hdone⟩ :=
      message_drains ctx hsession message hquiet hunique hfree
    have hunique₁ : w₁.state.db.jobs.InFlightUnique := by
      rcases hdone with hdb | ⟨event, tenantCode, -, hone, -⟩
      · rwa [hdb]
      · exact hone.unique hunique
    rw [← hlocks₁] at hfree
    obtain ⟨ended, w', hrest, hdrains, hlocks, hcount⟩ := ih w₁ hquiet₁ hunique₁ hfree
    have hruns : Faulty.forEach (handleAuthorizationSyncRequested ctx) (message :: messages) w =
        (.ok (), w') := (Faulty.bind_runs hhandled).trans hrest
    have hleft : ∀ tenantCode, pendingCount w'.state.db.jobs tenantCode =
        pendingCount w.state.db.jobs tenantCode -
          ((message :: messages).map tenantAsked).count (some tenantCode) := by
      intro tenantCode
      have hasks : (tenantAsked message == some tenantCode) = true ↔
          some tenantCode = tenantAsked message := beq_iff_eq.trans eq_comm
      rw [hcount tenantCode, hcount₁ tenantCode, List.map_cons, List.count_cons, Nat.sub_sub,
        Nat.add_comm]
      simp only [hasks]
    rcases hdone with hdb | ⟨event, tenantCode, hnext, hone, htold⟩
    · exact ⟨ended, w', hruns, hdrains.after_idle hdb, hlocks.trans hlocks₁, hleft⟩
    · exact ⟨event :: ended, w', hruns, .ends tenantCode hnext hone htold hdrains,
        hlocks.trans hlocks₁, hleft⟩

/-- Messages handled one after the other, with no call running into anything and no worker
    under way, drain the queues of the tenants they are about: each message ends one job of
    its tenant while there is one PENDING.  The jobs that end have been PENDING, end
    COMPLETED or FAILED, each with the one event that says so, and end in the claim order
    of their tenant; no other job changes, and no lock stays. -/
theorem messages_drain (ctx : WorkerContext) (hsession : ctx.session = some session)
    (messages : List (Option AuthorizationSyncRequestedPayload)) (w : World Store Failure)
    (hquiet : Faulty.Quiet w) (hunique : w.state.db.jobs.InFlightUnique)
    (hfree : ∀ tenantCode, w.state.locks (workerLockId tenantCode) = none) :
    ∃ ended w', Faulty.forEach (handleAuthorizationSyncRequested ctx) messages w = (.ok (), w') ∧
      Drained w.state w'.state ended ∧ w'.state.locks = w.state.locks ∧
      ∀ tenantCode, pendingCount w'.state.db.jobs tenantCode =
        pendingCount w.state.db.jobs tenantCode -
          (messages.map tenantAsked).count (some tenantCode) := by
  obtain ⟨ended, w', hruns, hdrains, hlocks, hcount⟩ :=
    messages_run ctx hsession messages w hquiet hunique hfree
  exact ⟨ended, w', hruns, hdrains.drained, hlocks, hcount⟩

/-- A group's job and a role's wait. -/
def waiting : World Store Failure :=
  .calm { db := { sampleDatabase true .empty with jobs := [groupJob, roleJob] } }

theorem waiting_unique : waiting.state.db.jobs.InFlightUnique := by
  have hfirst : JobTable.insert [] groupJob = some [groupJob] := by decide
  have hsecond : JobTable.insert [groupJob] roleJob = some [groupJob, roleJob] := by decide
  exact JobTable.insert_unique hsecond (JobTable.insert_unique hfirst JobTable.unique_nil)

/-- A message without a tenant between two of the sample's. -/
theorem messages_drain_waiting :
    ∃ w', Faulty.forEach (handleAuthorizationSyncRequested acmeWorker)
        [some ⟨some "acme"⟩, some ⟨none⟩, some ⟨some "acme"⟩] waiting = (.ok (), w') ∧
      pendingCount w'.state.db.jobs "acme" = 0 := by
  have hquiet : Faulty.Quiet waiting := fun _ hmem => absurd hmem List.not_mem_nil
  obtain ⟨-, w', hruns, -, -, hcount⟩ := messages_drain acmeWorker rfl
    [some ⟨some "acme"⟩, some ⟨none⟩, some ⟨some "acme"⟩] waiting hquiet waiting_unique
    fun _ => rfl
  refine ⟨w', hruns, ?_⟩
  rw [hcount]
  decide

end AuthorizationHandler

end AccessService.Authorization
