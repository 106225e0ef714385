/-
  AccessService.Authorization.QueueRefinement

  The services over one store, each running as a whole, whatever call of it fails: every run
  of such a deployment is a run of the synchronization queue, with the same jobs, events,
  locks, sources and messages at its end, as long as no failure of a job's last transaction
  is dropped.
-/

import AccessService.Authorization.EnqueueSimulation
import AccessService.Authorization.QueueDraining
import AccessService.Authorization.SyncJobWatchdog

namespace AccessService.Authorization

open AccessService.Lib AccessService.Lib.Transition AccessService.Pg AccessService.Persistence
open AccessService.UserGroups

-- ============================================================================
-- The deployment
-- ============================================================================

/-- The columns of a user group that a configuration change writes. -/
structure GroupConfiguration where
  status : UserGroupStatus
  scopeType : ScopeType
  scopeRefId : Option String
  matchingRule : Option MatchingRule
  ruleAttributeKeys : List String

/-- A configuration change comes with the next version. -/
def GroupConfiguration.write (configuration : GroupConfiguration) (id : Uuid) (g : UserGroup) :
    UserGroup :=
  if g.id = id then
    { g with
      status := configuration.status
      scopeType := configuration.scopeType
      scopeRefId := configuration.scopeRefId
      matchingRule := configuration.matchingRule
      ruleAttributeKeys := configuration.ruleAttributeKeys
      version := g.version + 1 }
  else g

theorem GroupConfiguration.write_id (configuration : GroupConfiguration) (id : Uuid)
    (g : UserGroup) : (configuration.write id g).id = g.id := by
  unfold GroupConfiguration.write
  split <;> rfl

def bumpRole (id : Uuid) (r : Role) : Role :=
  if r.id = id then { r with version := r.version + 1 } else r

theorem bumpRole_id (id : Uuid) (r : Role) : (bumpRole id r).id = r.id := by
  unfold bumpRole
  split <;> rfl

/-- The store of the services, and the requested events that the broker has yet to deliver. -/
structure Deployment where
  store : Store
  inFlight : List EventId

/-- The events about jobs. -/
def eventsOf (s : Store) : List SyncEvent := s.db.outbox.filterMap syncEvent

/-- A program runs with the calls that fail. -/
inductive Operation where
  | tick (milliseconds : Nat)
  | deliver (event : EventId) (ctx : WorkerContext) (faults : List (Option Failure))
  | enqueue (ctx : Context) (params : EnqueueParams) (faults : List (Option Failure))
  | watchdog (ctx : WatchdogContext) (faults : List (Option Failure))
  | editGroup (id : Uuid) (configuration : GroupConfiguration)
  | editRole (id : Uuid)
  /-- All else that runs on the store. -/
  | elsewhere (other : Store)

namespace Deployment

open AuthorizationHandler AuthorizationReconciliationWorker AuthorizationSyncService
open SyncJobWatchdogService

/-- Of another store, all but what the queue is about. -/
def aside (s other : Store) : Store :=
  { other with
    now := s.now
    locks := s.locks
    db := { other.db with
      groups := s.db.groups
      roles := s.db.roles
      jobs := s.db.jobs
      outbox := s.db.outbox ++ other.db.outbox.filter fun event => (syncEvent event).isNone } }

/-- The handler throws into the broker, which keeps the event. -/
def handled (d : Deployment) (event : EventId) :
    Except Failure Unit × World Store Failure → Deployment
  | (.ok _, w) => { store := w.state, inFlight := d.inFlight.erase event }
  | (.error _, w) => { store := w.state, inFlight := d.inFlight }

@[simp] theorem handled_store (d : Deployment) (event : EventId)
    (run : Except Failure Unit × World Store Failure) :
    (d.handled event run).store = run.2.state := by
  obtain ⟨e | u, w⟩ := run <;> rfl

/-- The events that have come are in flight. -/
def answered (d : Deployment) (s : Store) : Deployment where
  store := s
  inFlight := d.inFlight ++
    List.range' (eventsOf d.store).length ((eventsOf s).length - (eventsOf d.store).length)

def step (d : Deployment) : Operation → Option Deployment
  | .tick milliseconds =>
    some { d with store := { d.store with now := d.store.now + milliseconds } }
  | .deliver event ctx faults =>
    match (eventsOf d.store)[event]? with
    | none => none
    | some e =>
      if event ∈ d.inFlight then
        some (d.handled event
          (handleAuthorizationSyncRequested ctx (some ⟨some e.tenantCode⟩) ⟨d.store, faults⟩))
      else none
  | .enqueue ctx params faults =>
    if ctx.tenantCode = params.tenantCode then
      some (d.answered (enqueueSyncJob ctx params ⟨d.store, faults⟩).2.state)
    else none
  | .watchdog ctx faults =>
    some { d with store := (checkAndReclaimStuckJobs ctx ⟨d.store, faults⟩).2.state }
  | .editGroup id configuration =>
    some { d with store := { d.store with db := { d.store.db with
      groups := d.store.db.groups.update (configuration.write id) (configuration.write_id id) } } }
  | .editRole id =>
    some { d with store := { d.store with db := { d.store.db with
      roles := d.store.db.roles.update (bumpRole id) (bumpRole_id id) } } }
  | .elsewhere other => some { d with store := aside d.store other }

/-- No jobs yet, and no source ahead of its configuration. -/
structure Initial (d : Deployment) : Prop where
  jobs : d.store.db.jobs = []
  outbox : d.store.db.outbox = []
  locks : d.store.locks = AdvisoryLock.Locks.empty
  inFlight : d.inFlight = []
  projected : ∀ ref row, sourceRow d.store.db ref = some row → row.projectionVersion ≤ row.version

def system : System Deployment Operation where
  init := Initial
  step := step

/-- The worker does not complete the job of a role that has not been told. -/
def Told (d : Deployment) : Operation → Prop
  | .deliver event ctx faults =>
    ∀ d', d.step (.deliver event ctx faults) = some d' → ¬Dropped d'.store
  | _ => True

/-- The queue has what the deployment has. -/
def Refines (d : Deployment) (queue : SyncQueue) : Prop := Carries d.inFlight d.store queue

-- ============================================================================
-- Messages
-- ============================================================================

section Messages

variable {queue : SyncQueue} {h : Handling} {ctx : WorkerContext} {s : Store}

theorem handle_follows (hsession : ∀ session, ctx.session = some session → session = h.session) :
    Faulty.Triple (Follows queue h .starting)
      (handleAuthorizationSyncRequested ctx (some ⟨some h.tenantCode⟩))
      (fun _ s => Dropped s ∨ Follows queue h (.returned false) s)
      (Follows queue h (.returned true)) := by
  by_cases htenant : h.tenantCode = ""
  · have hnone : tenantAsked (some ⟨some h.tenantCode⟩) = none := by
      rw [htenant]
      rfl
    rw [handleAuthorizationSyncRequested, hnone]
    refine Faulty.triple_pure fun s hs => .inr ?_
    exact hs.step fun queue' hat => hat.move (.acquire none) rfl
  · have hsome : tenantAsked (some ⟨some h.tenantCode⟩) = some h.tenantCode :=
      Option.filter_eq_some_iff.mpr ⟨rfl, decide_eq_true htenant⟩
    rw [handleAuthorizationSyncRequested, hsome]
    have hruns : Faulty.Triple (Follows queue h .starting)
        (processNextJob { ctx with tenantCode := h.tenantCode } h.tenantCode)
        (fun _ s => Dropped s ∨ Follows queue h (.returned false) s)
        (Follows queue h (.returned true)) := processNextJob_follows rfl hsession
    exact hruns.bind fun _ => Faulty.triple_pure fun _ hs => hs

theorem consume_follows {threw : Bool} (hs : Follows queue h (.returned threw) s) :
    SyncQueue.system.Tracks queue
      (Carries (if threw then h.inFlight else h.inFlight.erase h.event)) s := by
  refine hs.step fun queue' hat => ⟨_, _, (hat.step .consume).trans rfl, ?_⟩
  refine ⟨⟨hat.mirrors.now, hat.mirrors.jobs, hat.mirrors.outbox, hat.mirrors.locks,
    hat.mirrors.sources⟩, ?_⟩
  rw [← hat.inFlight]
  rfl

/-- The queue delivers the event too. -/
theorem starting_of_delivered {inFlight : List EventId} {event : EventId} {e : SyncEvent}
    (session : Session) (hcarries : Carries inFlight s queue)
    (he : (eventsOf s)[event]? = some e) (hmem : event ∈ inFlight) :
    Follows queue ⟨queue.workers.length, event, e.tenantCode, session, inFlight⟩ .starting s := by
  have hdeliver : SyncQueue.system.step queue (.deliver event) = some { queue with
      workers := queue.workers ++ [{ event := event, tenantCode := e.tenantCode }] } := by
    have he' : queue.outbox[event]? = some e := by
      rw [hcarries.mirrors.outbox]
      exact he
    rw [← hcarries.inFlight] at hmem
    show SyncQueue.step queue (.deliver event) = _
    simp only [SyncQueue.step, he', if_pos hmem]
  refine ⟨_, .single ⟨_, trivial, hdeliver⟩, ⟨hcarries.mirrors.now, hcarries.mirrors.jobs,
    hcarries.mirrors.outbox, hcarries.mirrors.locks, hcarries.mirrors.sources⟩,
    hcarries.inFlight, ?_⟩
  exact List.getElem?_concat_length

end Messages

-- ============================================================================
-- Each operation
-- ============================================================================

section Steps

variable {d d' : Deployment} {queue : SyncQueue}

theorem deliver_follows {event : EventId} {ctx : WorkerContext} {faults : List (Option Failure)}
    (h : Refines d queue) (htold : d.Told (.deliver event ctx faults))
    (hstep : d.step (.deliver event ctx faults) = some d') :
    SyncQueue.system.Tracks queue Refines d' := by
  have hkept := htold d' hstep
  simp only [step] at hstep
  split at hstep
  · cases hstep
  next e he =>
    split at hstep
    next hmem =>
      obtain rfl := Option.some.inj hstep
      have hstarts := starting_of_delivered (ctx.session.getD 0) h he hmem
      have hsession : ∀ session, ctx.session = some session → session = ctx.session.getD 0 := by
        intro session hsome
        rw [hsome]
        rfl
      have hends := handle_follows hsession ⟨d.store, faults⟩ hstarts
      rcases hrun : handleAuthorizationSyncRequested ctx (some ⟨some e.tenantCode⟩)
        ⟨d.store, faults⟩ with ⟨error | u, w⟩
      · rw [hrun] at hends
        exact consume_follows hends
      · rw [hrun] at hends hkept
        exact consume_follows (hends.resolve_left hkept)
    · cases hstep

/-- The queue has the call too. -/
theorem asking_of_enqueued (params : EnqueueParams) (h : Refines d queue) :
    Asking queue ⟨queue.calls.length, params, queue.outbox.length, d.inFlight⟩ .resolving
      d.store := by
  refine ⟨{ queue with calls := queue.calls ++ [{ params := params }] },
    .single ⟨.enqueue params, trivial, rfl⟩, ⟨h.mirrors.now, h.mirrors.jobs, h.mirrors.outbox,
      h.mirrors.locks, h.mirrors.sources⟩, ?_, rfl, h.inFlight⟩
  exact List.getElem?_concat_length

theorem refines_of_answers {phase : CallPhase} {params : EnqueueParams} {c : Nat} {s : Store}
    {queue' : SyncQueue} (h : Refines d queue)
    (hanswers : Answers ⟨c, params, queue.outbox.length, d.inFlight⟩ phase s queue') :
    Refines (d.answered s) queue' := by
  refine ⟨hanswers.mirrors, ?_⟩
  rw [hanswers.inFlight, hanswers.mirrors.outbox, h.mirrors.outbox]
  rfl

theorem enqueue_follows {ctx : Context} {params : EnqueueParams} {faults : List (Option Failure)}
    (h : Refines d queue) (hstep : d.step (.enqueue ctx params faults) = some d') :
    SyncQueue.system.Tracks queue Refines d' := by
  simp only [step] at hstep
  split at hstep
  next htenant =>
    obtain rfl := Option.some.inj hstep
    obtain ⟨e, he⟩ : ∃ e : Enqueuing, e = ⟨queue.calls.length, params, queue.outbox.length,
      d.inFlight⟩ := ⟨_, rfl⟩
    have hasks : Asking queue e .resolving d.store := he ▸ asking_of_enqueued params h
    have hparams : e.params = params := by rw [he]
    have hends := enqueueSyncJob_follows (htenant.trans (congrArg _ hparams.symm)) ⟨d.store, faults⟩
      hasks
    rw [hparams] at hends
    have hanswered : ∃ phase, Answered queue e phase
        (enqueueSyncJob ctx params ⟨d.store, faults⟩).2.state := by
      rcases hrun : enqueueSyncJob ctx params ⟨d.store, faults⟩ with ⟨error | answer, w⟩
      · rw [hrun] at hends
        exact ⟨_, hends⟩
      · rw [hrun] at hends
        exact ⟨_, hends⟩
    obtain ⟨phase, hanswered⟩ := hanswered
    rw [he] at hanswered
    obtain ⟨queue', hsteps, hanswers⟩ := hanswered
    exact ⟨queue', hsteps, refines_of_answers h hanswers⟩
  · cases hstep

theorem watchdog_follows {ctx : WatchdogContext} {faults : List (Option Failure)}
    (h : Refines d queue) (hstep : d.step (.watchdog ctx faults) = some d') :
    SyncQueue.system.Tracks queue Refines d' := by
  obtain rfl := Option.some.inj hstep
  have hstopped : Stopped queue d.inFlight d.store := .now h
  have hends := checkAndReclaimStuckJobs_follows ctx ⟨d.store, faults⟩ hstopped
  rcases hrun : checkAndReclaimStuckJobs ctx ⟨d.store, faults⟩ with ⟨error | count, w⟩
  · rw [hrun] at hends
    exact hends
  · rw [hrun] at hends
    exact hends

-- ============================================================================
-- Configuration changes
-- ============================================================================

/-- The sources, one of which has been changed. -/
def changed (sources : SourceRef → Option SourceRow) (source : SourceRef) (row : SourceRow) :
    SourceRef → Option SourceRow :=
  fun ref => if ref = source then some row else sources ref

/-- A change of a row that is not there changes nothing. -/
theorem edit_follows (source : SourceRef) (f : SourceRow → SourceRow) {s' : Store}
    (h : Refines d queue) (hqueue : queueOf s' = queueOf d.store)
    (houtbox : s'.db.outbox = d.store.db.outbox)
    (hsources : ∀ ref, (if ref = source then (sourceRow d.store.db ref).map f
      else sourceRow d.store.db ref) = sourceRow s'.db ref)
    (hedit : ∀ row, queue.sources source = some row → ∃ edits, SyncQueue.system.Steps Always queue
      { queue with sources := changed queue.sources source (f row), edits := edits }) :
    SyncQueue.system.Tracks queue Refines { d with store := s' } := by
  obtain ⟨hjobs, hlocks, hnow⟩ : s'.db.jobs = d.store.db.jobs ∧ s'.locks = d.store.locks ∧
      s'.now = d.store.now := by
    simpa only [queueOf, Prod.mk.injEq] using hqueue
  have hmirrors : ∀ queue' : SyncQueue, queue'.now = queue.now → queue'.jobs = queue.jobs →
      queue'.outbox = queue.outbox → queue'.locks = queue.locks →
      queue'.sources = sourceRow s'.db → Mirrors s' queue' := by
    intro queue' hnow' hjobs' houtbox' hlocks' hsources'
    refine ⟨hnow'.trans (h.mirrors.now.trans hnow.symm),
      hjobs'.trans (h.mirrors.jobs.trans hjobs.symm), ?_,
      hlocks'.trans (h.mirrors.locks.trans hlocks.symm), hsources'⟩
    rw [houtbox', h.mirrors.outbox, houtbox]
  rcases hrow : queue.sources source with _ | row
  · refine .now ⟨hmirrors queue rfl rfl rfl rfl (funext fun ref => ?_), h.inFlight⟩
    rw [← hsources ref, ← h.mirrors.sources]
    split
    next href =>
      rw [href, hrow]
      rfl
    · rfl
  · obtain ⟨edits, hsteps⟩ := hedit row hrow
    refine ⟨_, hsteps, hmirrors _ rfl rfl rfl rfl (funext fun ref => ?_), h.inFlight⟩
    rw [← hsources ref, ← h.mirrors.sources]
    show changed queue.sources source (f row) ref = _
    unfold changed
    split
    next href =>
      rw [href, hrow]
      rfl
    · rfl

/-- The row of a group whose configuration has been changed. -/
def reconfigured (hasMatchingRule : Bool) (row : SourceRow) : SourceRow :=
  { row with version := row.version + 1, hasMatchingRule := hasMatchingRule }

theorem groupRow_write (configuration : GroupConfiguration) (id : Uuid) (g : UserGroup) :
    groupRow (configuration.write id g) =
      if g.id = id then reconfigured configuration.matchingRule.isSome (groupRow g)
      else groupRow g := by
  unfold GroupConfiguration.write
  split <;> rfl

/-- An edit of the queue that loads and saves at once. -/
theorem edit_group {source : SourceRef} {row : SourceRow} (hasMatchingRule : Bool)
    (hgroup : source.sourceType = .USER_GROUP) (hrow : queue.sources source = some row) :
    ∃ edits, SyncQueue.system.Steps Always queue { queue with
      sources := changed queue.sources source (reconfigured hasMatchingRule row)
      edits := edits } := by
  obtain ⟨edit, hedit⟩ : ∃ edit : GroupEdit, edit = { source := source, loaded := row } :=
    ⟨_, rfl⟩
  have hload : SyncQueue.system.step queue (.editLoad source) =
      some { queue with edits := queue.edits ++ [edit] } := by
    show SyncQueue.step queue (.editLoad source) = _
    simp only [SyncQueue.step, hrow, if_pos hgroup, hedit]
  have hsave : SyncQueue.system.step { queue with edits := queue.edits ++ [edit] }
      (.editSave queue.edits.length hasMatchingRule) = some { queue with
        sources := changed queue.sources source (reconfigured hasMatchingRule row)
        edits := (queue.edits ++ [edit]).set queue.edits.length { edit with saved := true } } := by
    show SyncQueue.step _ (.editSave queue.edits.length hasMatchingRule) = _
    simp only [SyncQueue.step, List.getElem?_concat_length, hedit]
    rfl
  exact ⟨_, .tail (.single ⟨_, trivial, hload⟩) ⟨_, trivial, hsave⟩⟩

theorem editGroup_follows {id : Uuid} {configuration : GroupConfiguration}
    (h : Refines d queue) (hstep : d.step (.editGroup id configuration) = some d') :
    SyncQueue.system.Tracks queue Refines d' := by
  obtain rfl := Option.some.inj hstep
  have hwritten := rowAt_written d.store.db.groups (configuration.write_id id)
    (groupRow_write configuration id)
  refine edit_follows ⟨.USER_GROUP, id⟩ (reconfigured configuration.matchingRule.isSome) h rfl rfl
    (fun ref => ?_) fun row hrow => edit_group _ rfl hrow
  obtain ⟨type, id'⟩ := ref
  simp only [sourceRow, SourceRef.mk.injEq]
  cases type with
  | ROLE => simp
  | USER_GROUP =>
    simp only [true_and]
    exact hwritten id'

def bumped (row : SourceRow) : SourceRow := { row with version := row.version + 1 }

theorem roleRow_bumpRole (id : Uuid) (r : Role) :
    roleRow (bumpRole id r) = if r.id = id then bumped (roleRow r) else roleRow r := by
  unfold bumpRole
  split <;> rfl

theorem edit_role {source : SourceRef} {row : SourceRow} (hrole : source.sourceType = .ROLE)
    (hrow : queue.sources source = some row) :
    ∃ edits, SyncQueue.system.Steps Always queue { queue with
      sources := changed queue.sources source (bumped row), edits := edits } := by
  have hedit : SyncQueue.system.step queue (.editRole source) = some { queue with
      sources := changed queue.sources source (bumped row), edits := queue.edits } := by
    show SyncQueue.step queue (.editRole source) = _
    simp only [SyncQueue.step, hrow, if_pos hrole]
    rfl
  exact ⟨_, .single ⟨_, trivial, hedit⟩⟩

theorem editRole_follows {id : Uuid} (h : Refines d queue)
    (hstep : d.step (.editRole id) = some d') : SyncQueue.system.Tracks queue Refines d' := by
  obtain rfl := Option.some.inj hstep
  have hwritten := rowAt_written d.store.db.roles (bumpRole_id id) (roleRow_bumpRole id)
  refine edit_follows ⟨.ROLE, id⟩ bumped h rfl rfl (fun ref => ?_) fun row hrow =>
    edit_role rfl hrow
  obtain ⟨type, id'⟩ := ref
  simp only [sourceRow, SourceRef.mk.injEq]
  cases type with
  | USER_GROUP => simp
  | ROLE =>
    simp only [true_and]
    exact hwritten id'

-- ============================================================================
-- The refinement
-- ============================================================================

theorem tick_follows {milliseconds : Nat} (h : Refines d queue)
    (hstep : d.step (.tick milliseconds) = some d') : SyncQueue.system.Tracks queue Refines d' := by
  obtain rfl := Option.some.inj hstep
  refine ⟨{ queue with now := queue.now + milliseconds }, .single ⟨.tick milliseconds, trivial,
    rfl⟩, ⟨?_, h.mirrors.jobs, h.mirrors.outbox, h.mirrors.locks, h.mirrors.sources⟩, h.inFlight⟩
  show queue.now + milliseconds = d.store.now + milliseconds
  rw [h.mirrors.now]

theorem eventsOf_aside (s other : Store) : eventsOf (aside s other) = eventsOf s := by
  have hnone : (other.db.outbox.filter fun event => (syncEvent event).isNone).filterMap syncEvent =
      [] := by
    refine List.filterMap_eq_nil_iff.mpr fun event hmem => ?_
    exact Option.isNone_iff_eq_none.mp (List.mem_filter.mp hmem).2
  show (s.db.outbox ++ _).filterMap syncEvent = _
  rw [List.filterMap_append, hnone, List.append_nil]
  rfl

theorem elsewhere_follows {other : Store} (h : Refines d queue)
    (hstep : d.step (.elsewhere other) = some d') : SyncQueue.system.Tracks queue Refines d' := by
  obtain rfl := Option.some.inj hstep
  refine .now ⟨⟨h.mirrors.now, h.mirrors.jobs, ?_, h.mirrors.locks, h.mirrors.sources⟩,
    h.inFlight⟩
  exact h.mirrors.outbox.trans (eventsOf_aside d.store other).symm

/-- Each operation is a run of the queue. -/
theorem step_follows {op : Operation} (h : Refines d queue) (htold : d.Told op)
    (hstep : d.step op = some d') : SyncQueue.system.Tracks queue Refines d' := by
  cases op with
  | tick _ => exact tick_follows h hstep
  | deliver _ _ _ => exact deliver_follows h htold hstep
  | enqueue _ _ _ => exact enqueue_follows h hstep
  | watchdog _ _ => exact watchdog_follows h hstep
  | editGroup _ _ => exact editGroup_follows h hstep
  | editRole _ => exact editRole_follows h hstep
  | elsewhere _ => exact elsewhere_follows h hstep

/-- A queue with what is in the store and nothing under way. -/
def idleQueue (d : Deployment) : SyncQueue where
  now := d.store.now
  jobs := d.store.db.jobs
  outbox := eventsOf d.store
  inFlight := d.inFlight
  sources := sourceRow d.store.db
  locks := d.store.locks
  workers := []
  calls := []
  watchdogs := []
  edits := []

theorem initial_follows (h : Initial d) :
    ∃ queue, SyncQueue.system.init queue ∧ Refines d queue := by
  refine ⟨idleQueue d, ⟨h.jobs, ?_, h.inFlight, h.locks, rfl, rfl, rfl, rfl, h.projected⟩,
    ⟨rfl, rfl, rfl, rfl, rfl⟩, rfl⟩
  show d.store.db.outbox.filterMap syncEvent = []
  rw [h.outbox]
  rfl

end Steps

/-- The services refine the queue.  Wherever a deployment gets to, with its programs run one
    at a time, any of their calls failing, and its messages delivered in any order and any
    number of times until one is handled, the queue gets to as well, with the same time,
    jobs, events, locks, sources and messages in flight. -/
theorem deployment_refines_queue {d : Deployment} (h : system.Reachable Told d) :
    ∃ queue, SyncQueue.system.Reachable Always queue ∧ Mirrors d.store queue ∧
      queue.inFlight = d.inFlight := by
  obtain ⟨queue, hqueue, hrefines⟩ := h.simulated (fun _ hinit => initial_follows hinit)
    fun _ _ _ _ hrefines htold hstep => step_follows hrefines htold hstep
  exact ⟨queue, hqueue, hrefines.mirrors, hrefines.inFlight⟩

/-- A group is to be synchronized. -/
def started : Deployment where
  store := { db := sampleDatabase false .empty }
  inFlight := []

def sampleParams : EnqueueParams where
  tenantCode := "acme"
  source := ⟨.USER_GROUP, sampleGroupId⟩

def afterStep (d : Deployment) (op : Operation) : Deployment := (d.step op).getD d

theorem step_afterStep {d : Deployment} {op : Operation} (h : (d.step op).isSome = true) :
    d.step op = some (d.afterStep op) := by
  obtain ⟨d', hd'⟩ := Option.isSome_iff_exists.mp h
  rw [afterStep, hd']
  rfl

/-- Requested, and done. -/
def requestedOnce : Deployment := started.afterStep (.enqueue acme sampleParams [])

def deliveredOnce : Deployment := requestedOnce.afterStep (.deliver 0 acmeWorker [])

theorem started_initial : Initial started := by
  refine ⟨rfl, rfl, rfl, rfl, fun ref row hrow => ?_⟩
  obtain ⟨type, id⟩ := ref
  cases type with
  | USER_GROUP =>
    obtain ⟨g, hg, rfl⟩ := Option.map_eq_some_iff.mp hrow
    obtain rfl := List.mem_singleton.mp (List.mem_of_find?_eq_some hg)
    decide
  | ROLE =>
    obtain ⟨r, hr, rfl⟩ := Option.map_eq_some_iff.mp hrow
    obtain rfl := List.mem_singleton.mp (List.mem_of_find?_eq_some hr)
    decide

theorem deliveredOnce_reachable : system.Reachable Told deliveredOnce := by
  have hrequested : started.step (.enqueue acme sampleParams []) = some requestedOnce :=
    step_afterStep (by decide +kernel)
  have hdelivered : requestedOnce.step (.deliver 0 acmeWorker []) = some deliveredOnce :=
    step_afterStep (by decide +kernel)
  have htold : requestedOnce.Told (.deliver 0 acmeWorker []) := by
    rintro d' hd' ⟨event, r, hlast, -, hrole, -⟩
    obtain rfl := Option.some.inj (hdelivered.symm.trans hd')
    have hgroup : (deliveredOnce.store.db.outbox.getLast?.bind syncEvent).map
        (fun event => event.source.sourceType) = some .USER_GROUP := by decide +kernel
    rw [hlast] at hgroup
    simp only [Option.bind_some, syncEvent, Option.map_some, hrole] at hgroup
    cases hgroup
  exact ⟨started, started_initial, .tail (.single ⟨.enqueue acme sampleParams [], trivial,
    hrequested⟩) ⟨.deliver 0 acmeWorker [], htold, hdelivered⟩⟩

/-- The sample's queue has the job done and nothing in flight. -/
theorem deployment_refines_queue_sample :
    ∃ queue, SyncQueue.system.Reachable Always queue ∧
      queue.jobs.map AuthorizationSyncJob.status = [.COMPLETED] ∧ queue.inFlight = [] := by
  obtain ⟨queue, hqueue, hmirrors, hinFlight⟩ := deployment_refines_queue deliveredOnce_reachable
  have hjobs : deliveredOnce.store.db.jobs.map AuthorizationSyncJob.status = [.COMPLETED] := by
    decide +kernel
  have hnone : deliveredOnce.inFlight = [] := by decide +kernel
  rw [← hmirrors.jobs] at hjobs
  exact ⟨queue, hqueue, hjobs, hinFlight.trans hnone⟩

end Deployment

end AccessService.Authorization
