/-
  AccessService.Authorization.WakeUps

  Whether a PENDING job can be left without a requested event to wake a worker.

  An event is worth one claim, of whichever job comes first.  So the PENDING jobs
  of a tenant that nobody executes are debts, and its events in flight that no
  handling has used up are the credits.  Enqueueing makes one of each and a
  claim pays one with the other.  What loses a wake-up is an event used up
  without a claim, and a job put back to PENDING without an event.
-/

import AccessService.Authorization.SyncQueueMoves
import AccessService.Lib.Credit

namespace AccessService.Authorization

open AccessService.Lib.Transition AccessService.Lib.Rows AccessService.Lib.Credit

namespace SyncQueue

/-- The event that the handling has used up: it has claimed a job, or it is about to
    return without an error. -/
def spent? (worker : Worker) : Option EventId :=
  match worker.phase with
  | .matching _ _ | .batching _ _ | .failing _ _ | .releasing _ false | .returned false =>
    some worker.event
  | _ => none

abbrev spends : List Worker → Nat → Option EventId := view spent?

/-- The PENDING jobs of the tenant that nobody executes. -/
def waiting (s : SyncQueue) (tenantCode : String) : Finset JobId :=
  (Finset.range s.jobs.length).filter fun id =>
    (s.jobs[id]?).any (AuthorizationSyncJob.pendingFor tenantCode) ∧
      ∀ worker ∈ s.workers, executing? worker.phase ≠ some id

/-- The events in flight of the tenant that no handling has used up. -/
def unspent (s : SyncQueue) (tenantCode : String) : Finset EventId :=
  s.inFlight.toFinset.filter fun e =>
    (s.outbox[e]?).any (·.tenantCode = tenantCode) ∧ ∀ worker ∈ s.workers, spent? worker ≠ some e

/-- The tenant has more events left than jobs waiting for one. -/
abbrev SpareWakeUp (s : SyncQueue) (tenantCode : String) : Prop :=
  Spare (s.waiting tenantCode) (s.unspent tenantCode)

/-- The handling may use up its event without a claim. -/
def MaySpend (s : SyncQueue) (worker : Worker) : Prop :=
  worker.event ∉ s.unspent worker.tenantCode ∨ s.SpareWakeUp worker.tenantCode

/-- Worker `w` may leave the job to itself: it is not PENDING, another worker executes
    it, or the event of `w` goes back with it. -/
def MayLeave (s : SyncQueue) (w : Nat) (worker : Worker) (id : JobId) : Prop :=
  s.jobs.statusOf id ≠ some .PENDING ∨
    (∃ other ∈ s.workers.eraseIdx w, executing? other.phase = some id) ∨
    (worker.event ∈ s.inFlight ∧ ∀ other ∈ s.workers.eraseIdx w, spent? other ≠ some worker.event) ∨
    s.SpareWakeUp worker.tenantCode

/-- The watchdog may put the job back: it is PENDING already, a worker executes it, or
    there is a wake-up for it. -/
def MayReclaim (s : SyncQueue) (id : JobId) (job : AuthorizationSyncJob) : Prop :=
  job.status = .PENDING ∨ (∃ worker ∈ s.workers, executing? worker.phase = some id) ∨
    s.SpareWakeUp job.tenantCode

/-- No step loses a wake-up. -/
def KeepsWakeUps (s : SyncQueue) : Action → Prop
  | .worker w (.acquire session) =>
    ∀ worker ∈ s.workers[w]?, worker.phase = .starting →
      (DistributedLockAdapter.acquireLock s.locks session (workerLockId worker.tenantCode)).2 =
        false → MaySpend s worker
  | .worker w .claim =>
    ∀ worker ∈ s.workers[w]?, ∀ id ∈ selected? worker.phase,
      (s.jobs.update id (AuthorizationSyncJob.claimed s.now)).isSome →
        id ∈ s.waiting worker.tenantCode ∨ MaySpend s worker
  | .worker w .failError =>
    ∀ worker ∈ s.workers[w]?, ∀ id ∈ executing? worker.phase, MayLeave s w worker id
  | .watchdog r =>
    ∀ list ∈ s.watchdogs[r]?, ∀ stuck ∈ list.head?, stuck.retryCount + 1 ≤ maxRetries →
      (s.jobs.update stuck.id
        (AuthorizationSyncJob.reclaimed s.now (stuck.retryCount + 1))).isSome →
          ∀ job ∈ s.jobs[stuck.id]?, MayReclaim s stuck.id job
  | _ => True

instance (s : SyncQueue) (worker : Worker) : Decidable (MaySpend s worker) :=
  inferInstanceAs (Decidable (_ ∨ _))

instance (s : SyncQueue) (w : Nat) (worker : Worker) (id : JobId) :
    Decidable (MayLeave s w worker id) :=
  inferInstanceAs (Decidable (_ ∨ _))

instance (s : SyncQueue) (id : JobId) (job : AuthorizationSyncJob) :
    Decidable (MayReclaim s id job) :=
  inferInstanceAs (Decidable (_ ∨ _))

instance (s : SyncQueue) (action : Action) : Decidable (KeepsWakeUps s action) :=
  match action with
  | .worker _ (.acquire _) | .worker _ .claim | .worker _ .failError | .watchdog _ =>
    inferInstanceAs (Decidable (∀ _ ∈ _, _))
  | .worker _ (.select _) | .worker _ (.progress _ _) | .worker _ .reconcile
  | .worker _ .throw | .worker _ (.complete _) | .worker _ .fail | .worker _ .claimError
  | .worker _ (.release _) | .worker _ .consume | .tick _ | .deliver _ | .enqueue _ | .call _ _
  | .watchdogScan _ | .editLoad _ | .editSave _ _ | .editRole _ => .isTrue trivial

-- ============================================================================
-- Membership
-- ============================================================================

/-- Row `id` is PENDING, of the tenant. -/
def PendingAt (jobs : JobTable) (tenantCode : String) (id : JobId) : Prop :=
  ∃ job, jobs[id]? = some job ∧ job.pendingFor tenantCode = true

theorem mem_waiting {s : SyncQueue} {tenantCode : String} {id : JobId} :
    id ∈ s.waiting tenantCode ↔
      PendingAt s.jobs tenantCode id ∧ ∀ w, runs s.workers w ≠ some id := by
  simp only [waiting, Finset.mem_filter, Finset.mem_range, Option.any_eq_true, view_ne_iff,
    PendingAt]
  constructor
  · rintro ⟨-, hpending, hidle⟩
    exact ⟨hpending, hidle⟩
  · rintro ⟨⟨job, hjob, hpending⟩, hidle⟩
    exact ⟨(List.getElem?_eq_some_iff.mp hjob).1, ⟨job, hjob, hpending⟩, hidle⟩

theorem mem_unspent {s : SyncQueue} {tenantCode : String} {e : EventId} :
    e ∈ s.unspent tenantCode ↔
      e ∈ s.inFlight ∧ (∃ event, s.outbox[e]? = some event ∧ event.tenantCode = tenantCode) ∧
        ∀ w, spends s.workers w ≠ some e := by
  simp only [unspent, Finset.mem_filter, List.mem_toFinset, Option.any_eq_true, view_ne_iff,
    decide_eq_true_eq]

section PendingAt

variable {jobs jobs' : JobTable} {tenantCode : String} {id i : JobId}
  {f : AuthorizationSyncJob → AuthorizationSyncJob}

theorem pendingAt_update_other (h : jobs.update id f = some jobs') (hne : i ≠ id) :
    PendingAt jobs' tenantCode i ↔ PendingAt jobs tenantCode i := by
  simp only [PendingAt, JobTable.update_other h hne]

/-- A row that was overwritten with another status than PENDING. -/
theorem not_pendingAt_update {job : AuthorizationSyncJob} (hjob : jobs[id]? = some job)
    (h : jobs.update id f = some jobs') (hstatus : (f job).status ≠ .PENDING) :
    ¬PendingAt jobs' tenantCode id := by
  rintro ⟨new, hnew, hpending⟩
  cases hnew.symm.trans (JobTable.update_row hjob h)
  simp only [AuthorizationSyncJob.pendingFor, Bool.and_eq_true, decide_eq_true_eq] at hpending
  exact hstatus hpending.2

/-- A write that is no status write to PENDING makes no row PENDING. -/
theorem pendingAt_of_update (h : jobs.update id f = some jobs')
    (hf : ∀ job : AuthorizationSyncJob, (f job).pendingFor tenantCode = true →
      job.pendingFor tenantCode = true)
    (hi : PendingAt jobs' tenantCode i) : PendingAt jobs tenantCode i := by
  by_cases hne : i = id
  · subst hne
    obtain ⟨new, hnew, hpending⟩ := hi
    cases hjob : jobs[i]? with
    | none =>
      simp only [JobTable.update, hjob] at h
      cases h
      cases hjob.symm.trans hnew
    | some job =>
      cases hnew.symm.trans (JobTable.update_row hjob h)
      exact ⟨job, hjob, hf job hpending⟩
  · exact (pendingAt_update_other h hne).mp hi

end PendingAt

-- ============================================================================
-- Workers stay within their tenant
-- ============================================================================

/-- The job that a worker has selected or executes. -/
def target? (phase : WorkerPhase) : Option JobId := (selected? phase).or (executing? phase)

/-- A worker handles an event, and a job, of its tenant. -/
structure Addressed (s : SyncQueue) : Prop where
  events : ∀ (w : Nat) worker, s.workers[w]? = some worker →
    ∃ event, s.outbox[worker.event]? = some event ∧ event.tenantCode = worker.tenantCode
  targets : ∀ (w : Nat) worker, s.workers[w]? = some worker → ∀ id ∈ target? worker.phase,
    ∃ job, s.jobs[id]? = some job ∧ job.tenantCode = worker.tenantCode

section Addressed

variable {s s' : SyncQueue} {action : Action}

theorem isNextPending_row {jobs : JobTable} {tenantCode : String} {id : JobId}
    (h : jobs.isNextPending tenantCode id = true) :
    ∃ job, jobs[id]? = some job ∧ job.tenantCode = tenantCode := by
  obtain ⟨job, hjob, hpending, -⟩ := JobTable.isNextPending_job h
  rw [AuthorizationSyncJob.pendingFor, Bool.and_eq_true, decide_eq_true_eq] at hpending
  exact ⟨job, hjob, hpending.1⟩

/-- A worker after the step was there before with its event, and its target if it has
    selected none in the step, or it starts on an event of its tenant. -/
def WorkerFrom (s : SyncQueue) (w : Nat) (worker' : Worker) : Prop :=
  (∃ worker, s.workers[w]? = some worker ∧ worker'.event = worker.event ∧
      worker'.tenantCode = worker.tenantCode ∧ ∀ id ∈ target? worker'.phase,
        id ∈ target? worker.phase ∨ s.jobs.isNextPending worker.tenantCode id = true) ∨
    (∃ event, s.outbox[worker'.event]? = some event ∧ event.tenantCode = worker'.tenantCode ∧
      target? worker'.phase = none)

theorem workerFrom_same {w : Nat} {worker : Worker} (hw : s.workers[w]? = some worker) :
    WorkerFrom s w worker :=
  .inl ⟨worker, hw, rfl, rfl, fun _ hid => .inl hid⟩

theorem workerFrom_set {w v : Nat} {worker worker' : Worker} {phase : WorkerPhase}
    (hw : s.workers[w]? = some worker)
    (hv : (s.workers.set w { worker with phase := phase })[v]? = some worker')
    (hphase : ∀ id ∈ target? phase, id ∈ target? worker.phase ∨
      s.jobs.isNextPending worker.tenantCode id = true) : WorkerFrom s v worker' := by
  rcases (getElem?_set_row hw).mp hv with ⟨rfl, rfl⟩ | ⟨-, hold⟩
  · exact .inl ⟨worker, hw, rfl, rfl, hphase⟩
  · exact workerFrom_same hold

theorem move_worker (h : Move s action s') {v : Nat} {worker' : Worker}
    (hv : s'.workers[v]? = some worker') : WorkerFrom s v worker' := by
  cases h with
  | deliver he hin =>
    rcases getElem?_concat.mp hv with hold | ⟨-, rfl⟩
    · exact workerFrom_same hold
    · exact .inr ⟨_, he, rfl, rfl⟩
  | select hw hp hnext =>
    refine workerFrom_set hw hv fun id hid => .inr ?_
    cases hid
    exact hnext
  | claim hw hp hjob hjobs =>
    refine workerFrom_set hw hv fun id hid => .inl ?_
    rw [hp]
    exact hid
  | project hw hp hjob =>
    refine workerFrom_set hw hv fun id hid => .inl ?_
    rw [hp]
    exact hid
  | executes hw hp hphase =>
    refine workerFrom_set hw hv fun id hid => .inl ?_
    rcases hp with hp | hp <;> rcases hphase with rfl | rfl <;> rw [hp] <;> exact hid
  | acquire hw hp hlock => exact workerFrom_set hw hv nofun
  | refuse hw hp hlock => exact workerFrom_set hw hv nofun
  | selectNone hw hp hnone => exact workerFrom_set hw hv nofun
  | claimFails hw hp => exact workerFrom_set hw hv nofun
  | complete tenantCode hw hp hjob hjobs => exact workerFrom_set hw hv nofun
  | fail hw hp hjob hjobs => exact workerFrom_set hw hv nofun
  | failError hw hp => exact workerFrom_set hw hv nofun
  | release hw hp => exact workerFrom_set hw hv nofun
  | consume hw hp => exact workerFrom_set hw hv nofun
  | giveUp hw hp => exact workerFrom_set hw hv nofun
  | _ => exact workerFrom_same hv

theorem addressed_step (h : Addressed s) (hmove : Move s action s') : Addressed s' := by
  constructor
  · intro w worker' hw'
    have hevent : ∃ event, s.outbox[worker'.event]? = some event ∧
        event.tenantCode = worker'.tenantCode := by
      rcases move_worker hmove hw' with ⟨worker, hw, he, ht, -⟩ | ⟨event, hevent, ht, -⟩
      · rw [he, ht]
        exact h.events w worker hw
      · exact ⟨event, hevent, ht⟩
    obtain ⟨event, hevent, ht⟩ := hevent
    exact ⟨event, move_event hmove hevent, ht⟩
  · intro w worker' hw' id hid
    have hjob : ∃ job, s.jobs[id]? = some job ∧ job.tenantCode = worker'.tenantCode := by
      rcases move_worker hmove hw' with ⟨worker, hw, -, ht, htarget⟩ | ⟨event, -, -, hnone⟩
      · rw [ht]
        rcases htarget id hid with hold | hnext
        · exact h.targets w worker hw id hold
        · exact isNextPending_row hnext
      · rw [hnone] at hid
        cases hid
    obtain ⟨job, hjob, ht⟩ := hjob
    obtain ⟨job', hjob', hkey⟩ := move_key hmove hjob
    refine ⟨job', hjob', ?_⟩
    rw [← ht]
    exact congrArg Prod.fst hkey

theorem addressed_of_reachable {P : SyncQueue → Action → Prop} (h : system.Reachable P s) :
    Addressed s := by
  refine h.invariant Addressed (fun s₀ hinit => ?_)
    fun _ _ _ _ hI _ hstep => addressed_step hI (step_move hstep)
  constructor <;> simp [hinit.workers]

end Addressed

-- ============================================================================
-- The two sets after a step
-- ============================================================================

section Sets

variable {s s' : SyncQueue} {tenantCode : String}

/-- All debts but `a` were there before. -/
theorem waiting_subset_insert {a : JobId}
    (hjobs : ∀ id, id ≠ a → PendingAt s'.jobs tenantCode id → PendingAt s.jobs tenantCode id)
    (hruns : ∀ v id, id ≠ a → runs s.workers v = some id → ∃ v', runs s'.workers v' = some id) :
    s'.waiting tenantCode ⊆ insert a (s.waiting tenantCode) := by
  intro id hid
  obtain ⟨hpending, hidle⟩ := mem_waiting.mp hid
  by_cases ha : id = a
  · exact Finset.mem_insert.mpr (.inl ha)
  · refine Finset.mem_insert_of_mem (mem_waiting.mpr ⟨hjobs id ha hpending, fun v hv => ?_⟩)
    obtain ⟨v', hv'⟩ := hruns v id ha hv
    exact hidle v' hv'

theorem waiting_subset
    (hjobs : ∀ id, PendingAt s'.jobs tenantCode id → PendingAt s.jobs tenantCode id)
    (hruns : runs s'.workers = runs s.workers) :
    s'.waiting tenantCode ⊆ s.waiting tenantCode := by
  intro id hid
  rw [mem_waiting, hruns] at hid
  exact mem_waiting.mpr ⟨hjobs id hid.1, hid.2⟩

/-- All credits but `e` are there still. -/
theorem unspent_subset_insert {e : EventId} (hin : s'.inFlight = s.inFlight)
    (hout : ∀ (i : EventId) event, s.outbox[i]? = some event → s'.outbox[i]? = some event)
    (hspends : ∀ v i, i ≠ e → spends s'.workers v = some i → ∃ v', spends s.workers v' = some i) :
    s.unspent tenantCode ⊆ insert e (s'.unspent tenantCode) := by
  intro i hi
  obtain ⟨hflight, ⟨event, hevent, ht⟩, hunspent⟩ := mem_unspent.mp hi
  by_cases he : i = e
  · exact Finset.mem_insert.mpr (.inl he)
  · refine Finset.mem_insert_of_mem (mem_unspent.mpr ⟨hin ▸ hflight, ⟨event, hout i event hevent, ht⟩,
      fun v hv => ?_⟩)
    obtain ⟨v', hv'⟩ := hspends v i he hv
    exact hunspent v' hv'

theorem unspent_subset (hin : ∀ i ∈ s.unspent tenantCode, i ∈ s'.inFlight)
    (hout : ∀ (i : EventId) event, s.outbox[i]? = some event → s'.outbox[i]? = some event)
    (hspends : ∀ v i, spends s'.workers v = some i → ∃ v', spends s.workers v' = some i) :
    s.unspent tenantCode ⊆ s'.unspent tenantCode := by
  intro i hi
  obtain ⟨-, ⟨event, hevent, ht⟩, hunspent⟩ := mem_unspent.mp hi
  refine mem_unspent.mpr ⟨hin i hi, ⟨event, hout i event hevent, ht⟩, fun v hv => ?_⟩
  obtain ⟨v', hv'⟩ := hspends v i hv
  exact hunspent v' hv'

theorem flight_of_unspent {i : EventId} (h : i ∈ s.unspent tenantCode) : i ∈ s.inFlight :=
  (mem_unspent.mp h).1

/-- Neither the jobs nor what the workers do with jobs and events has changed. -/
theorem covered_same (h : Covered (s.waiting tenantCode) (s.unspent tenantCode))
    (hjobs : s'.jobs = s.jobs) (hout : s'.outbox = s.outbox) (hin : s'.inFlight = s.inFlight)
    (hruns : runs s'.workers = runs s.workers) (hspends : spends s'.workers = spends s.workers) :
    Covered (s'.waiting tenantCode) (s'.unspent tenantCode) := by
  refine h.mono (waiting_subset (fun id hid => ?_) hruns) (unspent_subset ?_ ?_ ?_)
  · rw [← hjobs]
    exact hid
  · rw [hin]
    exact fun i hi => flight_of_unspent hi
  · rw [hout]
    exact fun _ _ he => he
  · rw [hspends]
    exact fun v _ hv => ⟨v, hv⟩

/-- A handling uses up no other event than its own. -/
theorem event_of_spent {worker : Worker} {e : EventId} (h : spent? worker = some e) :
    worker.event = e := by
  simp only [spent?] at h
  split at h <;> first | exact Option.some.inj h | cases h

theorem spends_set {w v : Nat} {worker : Worker} {phase : WorkerPhase} {e : EventId}
    (hw : s.workers[w]? = some worker)
    (hv : spends (s.workers.set w { worker with phase := phase }) v = some e) :
    e = worker.event ∨ spends s.workers v = some e := by
  rw [spends, view_set _ hw] at hv
  split at hv
  · exact .inl (event_of_spent hv).symm
  · exact .inr hv

/-- An event is a credit of no other tenant than its own. -/
theorem event_notMem_unspent {worker : Worker} {w : Nat} (hA : Addressed s)
    (hw : s.workers[w]? = some worker) (ht : tenantCode ≠ worker.tenantCode) :
    worker.event ∉ s.unspent tenantCode := by
  intro hmem
  obtain ⟨-, ⟨event, hevent, hsame⟩, -⟩ := mem_unspent.mp hmem
  obtain ⟨own, hown, hworker⟩ := hA.events w worker hw
  cases hevent.symm.trans hown
  exact ht (hsame.symm.trans hworker)

/-- The worker has used up its event. -/
theorem spent_notMem_unspent {worker : Worker} {w : Nat} (hw : s.workers[w]? = some worker)
    (hspent : spent? worker = some worker.event) : worker.event ∉ s.unspent tenantCode := by
  intro hmem
  exact (mem_unspent.mp hmem).2.2 w ((view_of_row hw).trans hspent)

/-- No wake-up is lost when there is nothing to do. -/
theorem maySpend_of_noPending {worker : Worker}
    (h : s.jobs.hasPending worker.tenantCode = false) : MaySpend s worker := by
  by_cases hmem : worker.event ∈ s.unspent worker.tenantCode
  · right
    have hnone : s.waiting worker.tenantCode = ∅ := by
      apply Finset.eq_empty_of_forall_notMem
      intro id hid
      obtain ⟨⟨job, hjob, hpending⟩, -⟩ := mem_waiting.mp hid
      have hfree := List.any_eq_false.mp h job (mem_of_row hjob)
      exact hfree hpending
    show (s.waiting _).card < (s.unspent _).card
    rw [hnone, Finset.card_empty]
    exact Finset.card_pos.mpr ⟨_, hmem⟩
  · exact .inl hmem

/-- The handling uses up its event, and nothing else happens. -/
theorem covered_spend {w : Nat} {worker : Worker} {phase : WorkerPhase} (hA : Addressed s)
    (h : Covered (s.waiting tenantCode) (s.unspent tenantCode)) (hok : MaySpend s worker)
    (hw : s.workers[w]? = some worker) (hphase : executing? phase = executing? worker.phase) :
    Covered ((s.setPhase w worker phase).waiting tenantCode)
      ((s.setPhase w worker phase).unspent tenantCode) := by
  have hdebts : (s.setPhase w worker phase).waiting tenantCode ⊆ s.waiting tenantCode :=
    waiting_subset (fun _ hid => hid) (runs_same hw hphase)
  have hcredits : s.unspent tenantCode ⊆
      insert worker.event ((s.setPhase w worker phase).unspent tenantCode) := by
    refine unspent_subset_insert rfl (fun _ _ he => he) fun v i hi hv => ⟨v, ?_⟩
    exact (spends_set hw hv).resolve_left hi
  by_cases ht : tenantCode = worker.tenantCode
  · subst ht
    exact h.waste hdebts hcredits hok
  · exact h.waste hdebts hcredits (.inl (event_notMem_unspent hA hw ht))

end Sets

-- ============================================================================
-- The steps that move the balance
-- ============================================================================

section Balance

variable {s : SyncQueue} {tenantCode : String} {w : Nat} {worker : Worker} {x : Session}
  {id : JobId} {jobs : JobTable} {job : AuthorizationSyncJob}

/-- A claim pays for the job with the event. -/
theorem covered_claim (hA : Addressed s)
    (h : Covered (s.waiting tenantCode) (s.unspent tenantCode))
    (hok : id ∈ s.waiting worker.tenantCode ∨ MaySpend s worker)
    (hw : s.workers[w]? = some worker) (hp : worker.phase = .selected x id)
    (hjob : s.jobs[id]? = some job)
    (hjobs : s.jobs.update id (AuthorizationSyncJob.claimed s.now) = some jobs) :
    Covered (({ s with jobs := jobs }.setPhase w worker (.matching x id)).waiting tenantCode)
      (({ s with jobs := jobs }.setPhase w worker (.matching x id)).unspent tenantCode) := by
  generalize hs' : { s with jobs := jobs }.setPhase w worker (.matching x id) = s'
  have hworkers : s'.workers = s.workers.set w { worker with phase := .matching x id } := by
    rw [← hs']
    rfl
  have hjobs' : s'.jobs = jobs := by
    rw [← hs']
    rfl
  have hgone : id ∉ s'.waiting tenantCode := by
    intro hmem
    have hpending := (mem_waiting.mp hmem).1
    rw [hjobs'] at hpending
    exact not_pendingAt_update hjob hjobs nofun hpending
  have hinsert : s'.waiting tenantCode ⊆ insert id (s.waiting tenantCode) := by
    apply waiting_subset_insert
    · intro i hi hpending
      rw [hjobs'] at hpending
      exact (pendingAt_update_other hjobs hi).mp hpending
    · intro v i hi hv
      rw [hworkers]
      exact ⟨v, view_keep hw (by rw [hp]; nofun) hv⟩
  have hcredits : s.unspent tenantCode ⊆ insert worker.event (s'.unspent tenantCode) := by
    rw [← hs']
    refine unspent_subset_insert rfl (fun _ _ he => he) fun v i hi hv => ⟨v, ?_⟩
    exact (spends_set hw hv).resolve_left hi
  have hsubset : s'.waiting tenantCode ⊆ s.waiting tenantCode :=
    (Finset.subset_insert_iff_of_notMem hgone).mp hinsert
  by_cases ht : tenantCode = worker.tenantCode
  · subst ht
    rcases hok with hid | hspend
    · exact h.pay hid (Finset.subset_erase.mpr ⟨hsubset, hgone⟩) hcredits
    · exact h.waste hsubset hcredits hspend
  · exact h.waste hsubset hcredits (.inl (event_notMem_unspent hA hw ht))

/-- A job that its worker ends is owed no more. -/
theorem covered_finish {s' : SyncQueue} {f : AuthorizationSyncJob → AuthorizationSyncJob}
    {event : SyncEvent} (h : Covered (s.waiting tenantCode) (s.unspent tenantCode))
    (hjob : s.jobs[id]? = some job) (hjobs : s.jobs.update id f = some jobs)
    (hf : (f job).status ≠ .PENDING) (hjobs' : s'.jobs = jobs)
    (hin : s'.inFlight = s.inFlight) (hout : s'.outbox = s.outbox ++ [event])
    (hruns : ∀ v i, i ≠ id → runs s.workers v = some i → ∃ v', runs s'.workers v' = some i)
    (hspends : spends s'.workers = spends s.workers) :
    Covered (s'.waiting tenantCode) (s'.unspent tenantCode) := by
  have hgone : id ∉ s'.waiting tenantCode := by
    intro hmem
    have hpending := (mem_waiting.mp hmem).1
    rw [hjobs'] at hpending
    exact not_pendingAt_update hjob hjobs hf hpending
  have hinsert : s'.waiting tenantCode ⊆ insert id (s.waiting tenantCode) := by
    refine waiting_subset_insert (fun i hi hpending => ?_) hruns
    rw [hjobs'] at hpending
    exact (pendingAt_update_other hjobs hi).mp hpending
  refine h.mono ((Finset.subset_insert_iff_of_notMem hgone).mp hinsert) (unspent_subset ?_ ?_ ?_)
  · rw [hin]
    exact fun i hi => flight_of_unspent hi
  · rw [hout]
    exact fun i _ he => getElem?_concat.mpr (.inl he)
  · rw [hspends]
    exact fun v _ hv => ⟨v, hv⟩

/-- A worker that cannot record its failure leaves the job to itself. -/
theorem covered_leave (hA : Addressed s)
    (h : Covered (s.waiting tenantCode) (s.unspent tenantCode)) (hok : MayLeave s w worker id)
    (hw : s.workers[w]? = some worker) (hp : worker.phase = .failing x id) :
    Covered ((s.setPhase w worker (.releasing x true)).waiting tenantCode)
      ((s.setPhase w worker (.releasing x true)).unspent tenantCode) := by
  generalize hs' : s.setPhase w worker (.releasing x true) = s'
  have hworkers : s'.workers = s.workers.set w { worker with phase := .releasing x true } := by
    rw [← hs']
    rfl
  have hinsert : s'.waiting tenantCode ⊆ insert id (s.waiting tenantCode) := by
    refine waiting_subset_insert (fun i _ hpending => by rw [← hs'] at hpending; exact hpending) ?_
    intro v i hi hv
    rw [hworkers]
    refine ⟨v, view_keep hw ?_ hv⟩
    rw [hp]
    exact fun heq => hi (Option.some.inj heq).symm
  have hcredits : s.unspent tenantCode ⊆ s'.unspent tenantCode := by
    rw [← hs']
    refine unspent_subset (fun i hi => (mem_unspent.mp hi).1) (fun _ _ he => he) fun v i hv => ⟨v, ?_⟩
    exact view_drop hw rfl hv
  by_cases hid : id ∈ s'.waiting tenantCode
  · obtain ⟨⟨job, hjob, hpending⟩, hidle⟩ := mem_waiting.mp hid
    have hjob' : s.jobs[id]? = some job := by
      rw [← hs'] at hjob
      exact hjob
    simp only [AuthorizationSyncJob.pendingFor, Bool.and_eq_true, decide_eq_true_eq] at hpending
    -- only the tenant of the worker is concerned
    obtain ⟨own, hown, ht⟩ := hA.targets w worker hw id (by rw [hp]; rfl)
    cases hjob'.symm.trans hown
    obtain rfl : worker.tenantCode = tenantCode := ht.symm.trans hpending.1
    rcases hok with hstatus | ⟨other, hother, hrun⟩ | ⟨hflight, hothers⟩ | hspare
    · rw [JobTable.statusOf, hjob', Option.map_some, hpending.2] at hstatus
      exact absurd rfl hstatus
    · obtain ⟨v, hv, hrow⟩ := List.mem_eraseIdx_iff_getElem?.mp hother
      have hrow' : s'.workers[v]? = some other := by
        rw [hworkers, getElem?_set_ne hv]
        exact hrow
      exact absurd ((view_of_row hrow').trans hrun) (hidle v)
    · have hspent : worker.event ∉ s.unspent worker.tenantCode :=
        spent_notMem_unspent hw (by simp only [spent?, hp])
      have hback : worker.event ∈ s'.unspent worker.tenantCode := by
        obtain ⟨event, hevent, htenant⟩ := hA.events w worker hw
        have houtbox : s'.outbox[worker.event]? = some event := by
          rw [← hs']
          exact hevent
        refine mem_unspent.mpr ⟨by rw [← hs']; exact hflight, ⟨event, houtbox, htenant⟩, ?_⟩
        intro v hv
        rw [hworkers, spends, view_set _ hw] at hv
        split at hv
        · cases hv
        next hvw =>
          obtain ⟨other, hrow, hother⟩ := Option.bind_eq_some_iff.mp hv
          exact hothers other (List.mem_eraseIdx_iff_getElem?.mpr ⟨v, hvw, hrow⟩) hother
      refine h.issue hinsert hspent fun i hi => ?_
      rcases Finset.mem_insert.mp hi with rfl | hi'
      · exact hback
      · exact hcredits hi'
    · exact hspare.owe hinsert hcredits
  · exact h.mono ((Finset.subset_insert_iff_of_notMem hid).mp hinsert) hcredits

/-- A new job comes with its event. -/
theorem covered_insert {s' : SyncQueue} (hA : Addressed s)
    (h : Covered (s.waiting tenantCode) (s.unspent tenantCode)) {new : AuthorizationSyncJob}
    (hjobs' : s'.jobs = s.jobs ++ [new]) (hin : s'.inFlight = s.inFlight ++ [s.outbox.length])
    (hout : s'.outbox = s.outbox ++ [.ofJob .AUTHORIZATION_SYNC_REQUESTED s.jobs.length new])
    (hworkers : s'.workers = s.workers) :
    Covered (s'.waiting tenantCode) (s'.unspent tenantCode) := by
  have hinsert : s'.waiting tenantCode ⊆ insert s.jobs.length (s.waiting tenantCode) := by
    refine waiting_subset_insert ?_ fun v i _ hv => ⟨v, by rw [hworkers]; exact hv⟩
    rintro i hi ⟨job, hjob, hpending⟩
    rw [hjobs'] at hjob
    rcases getElem?_concat.mp hjob with hold | ⟨rfl, -⟩
    · exact ⟨job, hold, hpending⟩
    · exact absurd rfl hi
  have hcredits : s.unspent tenantCode ⊆ s'.unspent tenantCode := by
    refine unspent_subset (fun i hi => ?_) (fun i _ he => ?_) fun v i hv => ⟨v, ?_⟩
    · rw [hin]
      exact List.mem_append_left _ (flight_of_unspent hi)
    · rw [hout]
      exact getElem?_concat.mpr (.inl he)
    · rw [← hworkers]
      exact hv
  by_cases hid : s.jobs.length ∈ s'.waiting tenantCode
  · obtain ⟨⟨job, hjob, hpending⟩, -⟩ := mem_waiting.mp hid
    rw [hjobs', List.getElem?_concat_length] at hjob
    cases hjob
    simp only [AuthorizationSyncJob.pendingFor, Bool.and_eq_true, decide_eq_true_eq] at hpending
    have hfresh : s.outbox.length ∉ s.unspent tenantCode := by
      intro hmem
      obtain ⟨-, ⟨event, hevent, -⟩, -⟩ := mem_unspent.mp hmem
      exact absurd (List.getElem?_eq_some_iff.mp hevent).1 (Nat.lt_irrefl _)
    refine h.issue hinsert hfresh fun i hi => ?_
    rcases Finset.mem_insert.mp hi with rfl | hi'
    · rw [mem_unspent, hin, hout, hworkers]
      refine ⟨List.mem_append_right _ (List.mem_singleton_self _),
        ⟨_, List.getElem?_concat_length, hpending.1⟩, fun v hv => ?_⟩
      obtain ⟨other, hrow, hspent⟩ := Option.bind_eq_some_iff.mp hv
      obtain ⟨event, hevent, -⟩ := hA.events v other hrow
      rw [event_of_spent hspent] at hevent
      exact absurd (List.getElem?_eq_some_iff.mp hevent).1 (Nat.lt_irrefl _)
    · exact hcredits hi'
  · exact h.mono ((Finset.subset_insert_iff_of_notMem hid).mp hinsert) hcredits

/-- The watchdog puts a job back. -/
theorem covered_reclaim {s' : SyncQueue} {n : Nat}
    (h : Covered (s.waiting tenantCode) (s.unspent tenantCode))
    (hok : ∀ job ∈ s.jobs[id]?, MayReclaim s id job)
    (hjobs : s.jobs.update id (AuthorizationSyncJob.reclaimed s.now n) = some jobs)
    (hjobs' : s'.jobs = jobs) (hin : s'.inFlight = s.inFlight) (hout : s'.outbox = s.outbox)
    (hworkers : s'.workers = s.workers) :
    Covered (s'.waiting tenantCode) (s'.unspent tenantCode) := by
  have hinsert : s'.waiting tenantCode ⊆ insert id (s.waiting tenantCode) := by
    refine waiting_subset_insert (fun i hi hpending => ?_) fun v i _ hv => ⟨v, ?_⟩
    · rw [hjobs'] at hpending
      exact (pendingAt_update_other hjobs hi).mp hpending
    · rw [hworkers]
      exact hv
  have hcredits : s.unspent tenantCode ⊆ s'.unspent tenantCode := by
    refine unspent_subset (fun i hi => ?_) (fun i _ he => ?_) fun v i hv => ⟨v, ?_⟩
    · rw [hin]
      exact flight_of_unspent hi
    · rw [hout]
      exact he
    · rw [← hworkers]
      exact hv
  by_cases hid : id ∈ s'.waiting tenantCode
  · obtain ⟨⟨new, hnew, hpending⟩, hidle⟩ := mem_waiting.mp hid
    rw [hworkers] at hidle
    rw [hjobs'] at hnew
    cases hjob : s.jobs[id]? with
    | none =>
      simp only [JobTable.update, hjob] at hjobs
      cases hjobs
      cases hjob.symm.trans hnew
    | some job =>
      cases hnew.symm.trans (JobTable.update_row hjob hjobs)
      simp only [AuthorizationSyncJob.pendingFor, Bool.and_eq_true, decide_eq_true_eq] at hpending
      have ht : job.tenantCode = tenantCode := hpending.1
      rcases hok job hjob with hstatus | ⟨worker, hworker, hrun⟩ | hspare
      · have hold : id ∈ s.waiting tenantCode :=
          mem_waiting.mpr ⟨⟨job, hjob, by simp [AuthorizationSyncJob.pendingFor, ht, hstatus]⟩, hidle⟩
        rw [Finset.insert_eq_of_mem hold] at hinsert
        exact h.mono hinsert hcredits
      · exact absurd hrun (view_ne_iff.mp hidle worker hworker)
      · rw [ht] at hspare
        exact hspare.owe hinsert hcredits
  · exact h.mono ((Finset.subset_insert_iff_of_notMem hid).mp hinsert) hcredits

end Balance

-- ============================================================================
-- Runs
-- ============================================================================

/-- Every tenant has an event left for each of its waiting jobs. -/
def WakeUpsCovered (s : SyncQueue) : Prop :=
  ∀ tenantCode, Covered (s.waiting tenantCode) (s.unspent tenantCode)

theorem wakeUpsCovered_step {s s' : SyncQueue} {action : Action} (hA : Addressed s)
    (h : WakeUpsCovered s) (hok : KeepsWakeUps s action) (hmove : Move s action s') :
    WakeUpsCovered s' := by
  intro t
  cases hmove with
  | deliver he hin =>
    exact covered_same (h t) rfl rfl rfl (view_concat _ rfl) (view_concat _ rfl)
  | acquire hw hp hlock =>
    refine covered_same (h t) rfl rfl rfl (runs_same hw (by rw [hp]; rfl)) (view_set_same _ hw ?_)
    simp only [spent?, hp]
  | refuse hw hp hlock =>
    exact covered_spend hA (h t) (hok _ hw hp hlock) hw (by rw [hp]; rfl)
  | select hw hp hnext =>
    refine covered_same (h t) rfl rfl rfl (runs_same hw (by rw [hp]; rfl)) (view_set_same _ hw ?_)
    simp only [spent?, hp]
  | selectNone hw hp hnone =>
    exact covered_spend hA (h t) (maySpend_of_noPending hnone) hw (by rw [hp]; rfl)
  | claim hw hp hjob hjobs =>
    exact covered_claim hA (h t) (hok _ hw _ (by rw [hp]; rfl) (by rw [hjobs]; rfl)) hw hp hjob hjobs
  | claimFails hw hp =>
    refine covered_same (h t) rfl rfl rfl (runs_same hw ?_) (view_set_same _ hw ?_)
    · rcases hp with hp | ⟨id, hp⟩ <;> rw [hp] <;> rfl
    · rcases hp with hp | ⟨id, hp⟩ <;> simp only [spent?, hp]
  | progress hw hp hjobs =>
    refine (h t).mono (waiting_subset (fun id hid => ?_) rfl) (Finset.Subset.refl _)
    exact pendingAt_of_update hjobs (fun _ hpending => hpending) hid
  | project hw hp hjob =>
    refine covered_same (h t) rfl rfl rfl (runs_same hw (by rw [hp]; rfl)) (view_set_same _ hw ?_)
    simp only [spent?, hp]
  | executes hw hp hphase =>
    refine covered_same (h t) rfl rfl rfl (runs_same hw ?_) (view_set_same _ hw ?_)
    · rcases hp with hp | hp <;> rcases hphase with rfl | rfl <;> rw [hp] <;> rfl
    · rcases hp with hp | hp <;> rcases hphase with rfl | rfl <;> simp only [spent?, hp]
  | complete tenantCode hw hp hjob hjobs =>
    refine covered_finish (h t) hjob hjobs nofun rfl rfl rfl (fun v i hi hv => ⟨v, ?_⟩)
      (view_set_same _ hw (by simp only [spent?, hp]))
    exact view_keep hw (by rw [hp]; exact fun heq => hi (Option.some.inj heq).symm) hv
  | fail hw hp hjob hjobs =>
    refine covered_finish (h t) hjob hjobs nofun rfl rfl rfl (fun v i hi hv => ⟨v, ?_⟩)
      (view_set_same _ hw (by simp only [spent?, hp]))
    exact view_keep hw (by rw [hp]; exact fun heq => hi (Option.some.inj heq).symm) hv
  | failError hw hp => exact covered_leave hA (h t) (hok _ hw _ (by rw [hp]; rfl)) hw hp
  | @release w worker x threw session hw hp =>
    refine covered_same (h t) rfl rfl rfl (runs_same hw (by rw [hp]; rfl)) (view_set_same _ hw ?_)
    cases threw <;> simp only [spent?, hp]
  | @consume w worker hw hp =>
    refine (h t).mono (waiting_subset (fun _ hid => hid) (runs_same hw (by rw [hp]; rfl))) ?_
    refine unspent_subset (fun i hi => ?_) (fun _ _ he => he) fun v i hv => ⟨v, view_drop hw rfl hv⟩
    have hne : i ≠ worker.event := by
      rintro rfl
      exact spent_notMem_unspent hw (by simp only [spent?, hp]) hi
    exact (List.mem_erase_of_ne hne).mpr (flight_of_unspent hi)
  | giveUp hw hp =>
    refine covered_same (h t) rfl rfl rfl (runs_same hw (by rw [hp]; rfl)) (view_set_same _ hw ?_)
    simp only [spent?, hp]
  | insert hc hp hjobs =>
    obtain ⟨rfl, -⟩ := JobTable.insert_eq_some hjobs
    exact covered_insert hA (h t) rfl rfl rfl rfl
  | @reclaim r stuck rest jobs hr hretry hjobs =>
    have hmay := hok (stuck :: rest) hr stuck rfl hretry (by rw [hjobs]; rfl)
    exact covered_reclaim (h t) hmay hjobs rfl rfl rfl rfl
  | watchdogFail hr hjob hjobs =>
    exact covered_finish (h t) hjob hjobs nofun rfl rfl rfl (fun v _ _ hv => ⟨v, hv⟩) rfl
  | _ => exact h t

theorem wakeUpsCovered_of_reachable {s : SyncQueue} (h : system.Reachable KeepsWakeUps s) :
    WakeUpsCovered s := by
  refine h.invariant WakeUpsCovered (fun s₀ hinit t => ?_) fun t action t' hreach hI hok hstep =>
    wakeUpsCovered_step (addressed_of_reachable hreach) hI hok (step_move hstep)
  have hnone : s₀.waiting t = ∅ := by
    apply Finset.eq_empty_of_forall_notMem
    intro id hid
    obtain ⟨⟨job, hjob, -⟩, -⟩ := mem_waiting.mp hid
    rw [hinit.jobs] at hjob
    cases hjob
  rw [hnone]
  exact Nat.zero_le _

/-- While no step loses a wake-up, a tenant with no requested event in flight and no
    handling under way has no PENDING job. -/
theorem no_lost_wakeUp {s : SyncQueue} (h : system.Reachable KeepsWakeUps s)
    (tenantCode : String)
    (hevents : ∀ e ∈ s.inFlight, ∀ event ∈ s.outbox[e]?, event.tenantCode ≠ tenantCode)
    (hworkers : ∀ worker ∈ s.workers, worker.tenantCode = tenantCode → worker.phase = .done) :
    ∀ job ∈ s.jobs, job.tenantCode = tenantCode → job.status ≠ .PENDING := by
  have hspent : s.unspent tenantCode = ∅ := by
    apply Finset.eq_empty_of_forall_notMem
    intro e he
    obtain ⟨hflight, ⟨event, hevent, ht⟩, -⟩ := mem_unspent.mp he
    exact hevents e hflight event hevent ht
  have hnone := (wakeUpsCovered_of_reachable h tenantCode).debts_eq_empty hspent
  intro job hmem ht hstatus
  obtain ⟨id, hjob⟩ := List.mem_iff_getElem?.mp hmem
  have hwaiting : id ∈ s.waiting tenantCode := by
    refine mem_waiting.mpr ⟨⟨job, hjob, by simp [AuthorizationSyncJob.pendingFor, ht, hstatus]⟩, ?_⟩
    intro w hrun
    -- a worker on the job would be one of this tenant, and not done
    obtain ⟨worker, hw, hexec⟩ := Option.bind_eq_some_iff.mp hrun
    have htarget : id ∈ target? worker.phase := by
      cases hp : worker.phase <;> rw [hp] at hexec <;> first | exact hexec | cases hexec
    obtain ⟨own, hown, htenant⟩ := (addressed_of_reachable h).targets w worker hw id htarget
    cases hjob.symm.trans hown
    have hdone := hworkers worker (mem_of_row hw) (htenant.symm.trans ht)
    rw [hdone] at hexec
    cases hexec
  rw [hnone] at hwaiting
  exact absurd hwaiting (Finset.notMem_empty id)

theorem no_lost_wakeUp_sample :
    ∃ s, system.run KeepsWakeUps sampleQueue
        (enqueueRun 0 sampleParams ++ handleRun 0 0 0 0) = some s ∧
      s.jobs ≠ [] ∧ ∀ job ∈ s.jobs, job.tenantCode = "acme" → job.status ≠ .PENDING := by
  have hrun : (system.run KeepsWakeUps sampleQueue
      (enqueueRun 0 sampleParams ++ handleRun 0 0 0 0)).any (fun s =>
        s.inFlight = [] ∧ (∀ worker ∈ s.workers, worker.phase = .done) ∧ s.jobs ≠ []) = true := by
    decide +kernel
  obtain ⟨s, hs, hquiet⟩ := (Option.any_eq_true _ _).mp hrun
  obtain ⟨hflight, hdone, hjobs⟩ := of_decide_eq_true hquiet
  refine ⟨s, hs, hjobs, no_lost_wakeUp (.of_run initial_sampleQueue hs) "acme" ?_ ?_⟩
  · rw [hflight]
    nofun
  · exact fun worker hworker _ => hdone worker hworker

-- ============================================================================
-- What a refused acquire does
-- ============================================================================

/-- Two versions of one group are queued.  The second event is handled while the
    worker of the first holds the lock, and is gone. -/
def refusedRun : List Action :=
  enqueueRun 0 sampleParams ++ [.editLoad sampleGroup, .editSave 0 true] ++
    enqueueRun 1 sampleParams ++
    [.deliver 0, .worker 0 (.acquire (some 0)),
      .deliver 1, .worker 1 (.acquire (some 1)), .worker 1 .consume,
      .worker 0 (.select (some 0)), .worker 0 .claim, .worker 0 .reconcile,
      .worker 0 (.complete 0), .worker 0 (.release (some 0)), .worker 0 .consume]

theorem refusedRun_strands :
    (system.run Always sampleQueue refusedRun).any (fun s =>
      s.inFlight = [] ∧ (∀ worker ∈ s.workers, worker.phase = .done) ∧
        s.jobs.statusOf 1 = some .PENDING) = true := by
  decide +kernel

/-- With any order of steps, a job stays PENDING with no event in flight and nobody at
    work. -/
theorem not_no_lost_wakeUp :
    ∃ s, system.Reachable Always s ∧ s.inFlight = [] ∧
      (∀ worker ∈ s.workers, worker.phase = .done) ∧ s.jobs.statusOf 1 = some .PENDING := by
  obtain ⟨s, hs, hstranded⟩ := (Option.any_eq_true _ _).mp refusedRun_strands
  obtain ⟨hflight, hdone, hpending⟩ := of_decide_eq_true hstranded
  exact ⟨s, .of_run initial_sampleQueue hs, hflight, hdone, hpending⟩

end SyncQueue

end AccessService.Authorization
