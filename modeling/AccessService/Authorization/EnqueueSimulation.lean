/-
  AccessService.Authorization.EnqueueSimulation

  A run of `enqueueSyncJob`, whatever query of it fails, is a run of one caller of the
  synchronization queue, with the same answer.
-/

import AccessService.Authorization.AuthorizationSync
import AccessService.Authorization.QueueMirror

namespace AccessService.Authorization

open AccessService.Lib AccessService.Lib.Transition AccessService.Pg AccessService.Persistence
open AccessService.UserGroups
open SyncQueue (newJob CallAction)

-- ============================================================================
-- Where the call stands
-- ============================================================================

/-- The call of the queue that follows a run, with how many events there have been and which
    of them were in flight. -/
structure Enqueuing where
  index : Nat
  params : EnqueueParams
  events : Nat
  inFlight : List EventId

def Enqueuing.call (e : Enqueuing) (phase : CallPhase) : EnqueueCall where
  params := e.params
  phase := phase

/-- No event has come yet. -/
structure Asks (e : Enqueuing) (phase : CallPhase) (s : Store) (queue : SyncQueue) : Prop where
  mirrors : Mirrors s queue
  call : queue.calls[e.index]? = some (e.call phase)
  events : queue.outbox.length = e.events
  inFlight : queue.inFlight = e.inFlight

/-- The events that have come are in flight. -/
structure Answers (e : Enqueuing) (phase : CallPhase) (s : Store) (queue : SyncQueue) : Prop where
  mirrors : Mirrors s queue
  call : queue.calls[e.index]? = some (e.call phase)
  inFlight : queue.inFlight =
    e.inFlight ++ List.range' e.events (queue.outbox.length - e.events)

section Steps

variable {e : Enqueuing} {phase phase' : CallPhase} {s s' : Store} {queue queue' : SyncQueue}

theorem Asks.step (hasks : Asks e phase s queue) (action : CallAction) :
    SyncQueue.system.step queue (.call e.index action) =
      queue.callStep e.index (e.call phase) action phase := by
  show SyncQueue.step queue (.call e.index action) = _
  simp only [SyncQueue.step, hasks.call]
  rfl

theorem Asks.setCall (hasks : Asks e phase s queue) (phase' : CallPhase) :
    Asks e phase' s (queue.setCall e.index (e.call phase) phase') where
  mirrors := ⟨hasks.mirrors.now, hasks.mirrors.jobs, hasks.mirrors.outbox, hasks.mirrors.locks,
    hasks.mirrors.sources⟩
  call := Rows.getElem?_set_self hasks.call
  events := hasks.events
  inFlight := hasks.inFlight

theorem Asks.move (hasks : Asks e phase s queue) (action : CallAction)
    (hstep : queue.callStep e.index (e.call phase) action phase =
      some (queue.setCall e.index (e.call phase) phase')) :
    ∃ i queue', SyncQueue.system.step queue i = some queue' ∧ Asks e phase' s queue' :=
  ⟨_, _, (hasks.step action).trans hstep, hasks.setCall phase'⟩

theorem Asks.answers (hasks : Asks e phase s queue) : Answers e phase s queue where
  mirrors := hasks.mirrors
  call := hasks.call
  inFlight := by
    rw [hasks.inFlight, hasks.events, Nat.sub_self]
    exact (List.append_nil _).symm

theorem Asks.congr (hasks : Asks e phase s queue) (hsame : mirrored s' = mirrored s) :
    Asks e phase s' queue :=
  { hasks with mirrors := hasks.mirrors.congr hsame }

end Steps

def Asking (queue : SyncQueue) (e : Enqueuing) (phase : CallPhase) : Store → Prop :=
  SyncQueue.system.Tracks queue (Asks e phase)

def Answered (queue : SyncQueue) (e : Enqueuing) (phase : CallPhase) : Store → Prop :=
  SyncQueue.system.Tracks queue (Answers e phase)

namespace AuthorizationSyncService

variable {ctx : Context} {queue : SyncQueue} {e : Enqueuing} {s : Store} {version : Nat}

/-- The next query may fail. -/
inductive Open : CallPhase → Prop where
  | resolving : Open .resolving
  | checking (sourceVersion : Nat) : Open (.checking sourceVersion)
  | inserting (sourceVersion : Nat) : Open (.inserting sourceVersion)

theorem dbError_follows {phase : CallPhase} (hopen : Open phase) (hs : Asking queue e phase s) :
    Answered queue e .threw s := by
  have hthrew : Asking queue e .threw s := by
    refine hs.step fun queue' hasks => hasks.move .dbError ?_
    cases hopen <;> rfl
  exact hthrew.mono fun _ hasks => hasks.answers

-- ============================================================================
-- The version
-- ============================================================================

/-- What the request goes on with once its source is resolved. -/
def Resolves (queue : SyncQueue) (e : Enqueuing) (versions : SourceVersions) (s : Store) : Prop :=
  if versions.sourceVersion ≤ versions.projectionVersion then Answered queue e (.returned none) s
  else Asking queue e (.checking versions.sourceVersion) s

theorem resolved_follows {row : SourceRow} (hvalidates : e.params.ignoreValidateSource = false)
    (hrow : sourceRow s.db e.params.source = some row)
    (hmine : row.tenantCode = e.params.tenantCode) (hs : Asking queue e .resolving s) :
    Resolves queue e ⟨row.version, row.projectionVersion⟩ s := by
  unfold Resolves
  split
  next hle =>
    have hreturned : Asking queue e (.returned none) s := by
      refine hs.step fun queue' hasks => hasks.move .resolve ?_
      simp only [SyncQueue.callStep, Enqueuing.call, hvalidates, Bool.false_eq_true, if_false,
        hasks.mirrors.sources, hrow, hmine, ne_eq, not_true_eq_false]
      exact if_pos hle
    exact hreturned.mono fun _ hasks => hasks.answers
  next hlt =>
    refine hs.step fun queue' hasks => hasks.move .resolve ?_
    simp only [SyncQueue.callStep, Enqueuing.call, hvalidates, Bool.false_eq_true, if_false,
      hasks.mirrors.sources, hrow, hmine, ne_eq, not_true_eq_false]
    exact if_neg hlt

/-- The request context finds no such row. -/
theorem unresolved_follows (hvalidates : e.params.ignoreValidateSource = false)
    (hother : ∀ row, sourceRow s.db e.params.source = some row →
      row.tenantCode ≠ e.params.tenantCode) (hs : Asking queue e .resolving s) :
    Answered queue e .threw s := by
  have hthrew : Asking queue e .threw s := by
    refine hs.step fun queue' hasks => hasks.move .resolve ?_
    simp only [SyncQueue.callStep, Enqueuing.call, hvalidates, Bool.false_eq_true, if_false,
      hasks.mirrors.sources]
    rcases hrow : sourceRow s.db e.params.source with _ | row
    · rfl
    · exact if_pos (hother row hrow)
  exact hthrew.mono fun _ hasks => hasks.answers

/-- The versions of the source, as the request context sees them. -/
theorem sourceRow_of_versions {tenantCode : String} {source : SourceRef} :
    (versionsOf s.db tenantCode source = none → ∀ row, sourceRow s.db source = some row →
      row.tenantCode ≠ tenantCode) ∧
    ∀ versions, versionsOf s.db tenantCode source = some versions →
      ∃ row, sourceRow s.db source = some row ∧ row.tenantCode = tenantCode ∧
        versions = ⟨row.version, row.projectionVersion⟩ := by
  obtain ⟨type, sourceId⟩ := source
  cases type with
  | USER_GROUP =>
    refine ⟨fun hnone row hrow hmine => ?_, fun versions hversions => ?_⟩
    · obtain ⟨g, hg, rfl⟩ := Option.map_eq_some_iff.mp hrow
      obtain ⟨hmem, hid⟩ := Keyed.rowAt_eq_some.mp hg
      rw [versionsOf, Database.group_eq_some.mpr ⟨hmem, hmine, hid⟩] at hnone
      cases hnone
    · obtain ⟨g, hg, rfl⟩ := Option.map_eq_some_iff.mp hversions
      obtain ⟨hmem, hmine, hid⟩ := Database.group_eq_some.mp hg
      exact ⟨groupRow g, congrArg (Option.map groupRow) (Keyed.rowAt_eq_some.mpr ⟨hmem, hid⟩),
        hmine, rfl⟩
  | ROLE =>
    refine ⟨fun hnone row hrow hmine => ?_, fun versions hversions => ?_⟩
    · obtain ⟨r, hr, rfl⟩ := Option.map_eq_some_iff.mp hrow
      obtain ⟨hmem, hid⟩ := Keyed.rowAt_eq_some.mp hr
      rw [versionsOf, Database.role_eq_some.mpr ⟨hmem, hmine, hid⟩] at hnone
      cases hnone
    · obtain ⟨r, hr, rfl⟩ := Option.map_eq_some_iff.mp hversions
      obtain ⟨hmem, hmine, hid⟩ := Database.role_eq_some.mp hr
      exact ⟨roleRow r, congrArg (Option.map roleRow) (Keyed.rowAt_eq_some.mpr ⟨hmem, hid⟩),
        hmine, rfl⟩

/-- A query of the request reads, or fails. -/
theorem asks_readDb {α : Type} (f : Database → α) {phase : CallPhase} (hopen : Open phase) :
    Faulty.Triple (Asking queue e phase) (readDb f : Service α)
      (fun a s => a = f s.db ∧ Asking queue e phase s) (Answered queue e .threw) := by
  unfold readDb
  exact Faulty.triple_read (fun s hs => dbError_follows hopen hs) fun s hs => ⟨rfl, hs⟩

/-- The source found is resolved, and the request throws without one. -/
theorem found_follows {found : Option SourceVersions}
    (htenant : ctx.tenantCode = e.params.tenantCode)
    (hvalidates : e.params.ignoreValidateSource = false)
    (hfound : found = versionsOf s.db ctx.tenantCode e.params.source)
    (hs : Asking queue e .resolving s) :
    found.elim (Answered queue e .threw s) fun versions => Resolves queue e versions s := by
  rw [htenant] at hfound
  cases found with
  | none => exact unresolved_follows hvalidates (sourceRow_of_versions.1 hfound.symm) hs
  | some versions =>
    obtain ⟨row, hrow, hmine, rfl⟩ := sourceRow_of_versions.2 versions hfound.symm
    exact resolved_follows hvalidates hrow hmine hs

theorem resolve_follows (htenant : ctx.tenantCode = e.params.tenantCode)
    (hvalidates : e.params.ignoreValidateSource = false) :
    Faulty.Triple (Asking queue e .resolving)
      (validateAndResolveSourceVersions ctx e.params.source)
      (fun versions => Resolves queue e versions) (Answered queue e .threw) := by
  unfold validateAndResolveSourceVersions
  split
  next htype =>
    refine (asks_readDb _ .resolving).bind fun group => ?_
    have hfound : ∀ s, group = s.db.group ctx.tenantCode e.params.source.sourceId ∧
        Asking queue e .resolving s →
        (group.map fun g => (⟨g.version, g.projectionVersion⟩ : SourceVersions)).elim
          (Answered queue e .threw s) fun versions => Resolves queue e versions s := by
      rintro s ⟨rfl, hs⟩
      exact found_follows htenant hvalidates (by rw [versionsOf, htype]) hs
    cases group with
    | none => exact Faulty.triple_throw hfound
    | some group => exact Faulty.triple_pure hfound
  next htype =>
    refine (asks_readDb _ .resolving).bind fun role => ?_
    have hfound : ∀ s, role = s.db.role ctx.tenantCode e.params.source.sourceId ∧
        Asking queue e .resolving s →
        (role.map fun r => (⟨r.version, r.projectionVersion⟩ : SourceVersions)).elim
          (Answered queue e .threw s) fun versions => Resolves queue e versions s := by
      rintro s ⟨rfl, hs⟩
      exact found_follows htenant hvalidates (by rw [versionsOf, htype]) hs
    cases role with
    | none => exact Faulty.triple_throw hfound
    | some role => exact Faulty.triple_pure hfound

-- ============================================================================
-- The job
-- ============================================================================

/-- No job for the version is in flight. -/
structure Inserts (e : Enqueuing) (version : Nat) (s : Store) (queue : SyncQueue) : Prop
    extends Asks e (.inserting version) s queue where
  free : s.db.jobs.findInFlightJob e.params.tenantCode e.params.source version = none

def Inserting (queue : SyncQueue) (e : Enqueuing) (version : Nat) : Store → Prop :=
  SyncQueue.system.Tracks queue (Inserts e version)

theorem Inserting.threw (hs : Inserting queue e version s) : Answered queue e .threw s :=
  dbError_follows (.inserting version) (hs.mono fun _ hinserts => hinserts.toAsks)

theorem Inserting.free (hs : Inserting queue e version s) :
    s.db.jobs.findInFlightJob e.params.tenantCode e.params.source version = none := by
  obtain ⟨queue', -, hinserts⟩ := hs
  exact hinserts.free

/-- The event of the new job, in the queue. -/
def requested (queue : SyncQueue) (e : Enqueuing) (version : Nat) : SyncEvent :=
  .ofJob .AUTHORIZATION_SYNC_REQUESTED queue.jobs.length (newJob e.params version queue.now)

/-- The queue after the insert. -/
def inserted (queue : SyncQueue) (e : Enqueuing) (version : Nat) (jobs : JobTable) : SyncQueue :=
  ({ queue with jobs := jobs, inFlight := queue.inFlight ++ [queue.outbox.length] }.append
    (requested queue e version)).setCall e.index (e.call (.inserting version))
      (.returned (some queue.jobs.length))

theorem Inserts.answers_inserted {queue : SyncQueue} {jobs : JobTable} {s' : Store}
    (hinserts : Inserts e version s queue)
    (hmirrors : Mirrors s' ({ queue with jobs := jobs }.append (requested queue e version))) :
    Answers e (.returned (some queue.jobs.length)) s' (inserted queue e version jobs) where
  mirrors := ⟨hmirrors.now, hmirrors.jobs, hmirrors.outbox, hmirrors.locks, hmirrors.sources⟩
  call := Rows.getElem?_set_self hinserts.call
  inFlight := by
    have hlength : (inserted queue e version jobs).outbox.length - e.events = 1 := by
      show (queue.outbox ++ [_]).length - e.events = 1
      rw [List.length_append, hinserts.events, List.length_singleton, Nat.add_sub_cancel_left]
    rw [hlength]
    show queue.inFlight ++ [queue.outbox.length] = e.inFlight ++ [e.events]
    rw [hinserts.inFlight, hinserts.events]

theorem leaves_createJob (params : EnqueueParams) (version : Nat) :
    Faulty.Leaves unrolled (createJob params version) := by
  refine Faulty.leaves_call fun s created s' hcall => ?_
  simp only at hcall
  split at hcall
  · obtain ⟨-, rfl⟩ := Prod.mk.inj (Except.ok.inj hcall)
    rfl
  · cases hcall

/-- The new job with its event, in both. -/
theorem created_follows {w w' : World Store Failure} {answer : SyncJobResponseDto}
    (hw : Inserting queue e version w.state)
    (hrun : createSyncJobTransactional e.params version w = (.ok answer, w')) :
    Answered queue e (.returned answer.jobId) w'.state := by
  rw [createSyncJobTransactional, runInTransaction, Faulty.transaction_ok, Faulty.bind_ok] at hrun
  obtain ⟨created, w₁, hcreate, hrest⟩ := hrun
  obtain ⟨u, w₂, hevent, hanswer⟩ := Faulty.bind_ok.mp hrest
  obtain ⟨rfl, rfl⟩ := Faulty.pure_ok.mp hanswer
  have hcall := Faulty.call_ok hcreate
  simp only at hcall
  split at hcall
  next jobs hjobs =>
    obtain ⟨rfl, hstate⟩ := Prod.mk.inj (Except.ok.inj hcall)
    refine hw.step fun queue' hinserts => ?_
    have hmirrors : Mirrors w₂.state ({ queue' with jobs := jobs }.append
        (requested queue' e version)) := by
      have hevent' : requested queue' e version = .ofJob .AUTHORIZATION_SYNC_REQUESTED
          w.state.db.jobs.length (newJob e.params version w.state.now) := by
        rw [requested, hinserts.mirrors.jobs, hinserts.mirrors.now]
      rw [writeDb_ok hevent, ← hstate, hevent']
      exact (hinserts.mirrors.update jobs).append
    have hanswers := hinserts.answers_inserted hmirrors
    rw [hinserts.mirrors.jobs] at hanswers
    refine ⟨_, inserted queue' e version jobs, (hinserts.step .insert).trans ?_, hanswers⟩
    simp only [SyncQueue.callStep, Enqueuing.call, inserted, requested, hinserts.mirrors.jobs,
      hinserts.mirrors.now, hjobs]
  · cases hcall

theorem createSyncJobTransactional_follows :
    Faulty.Triple (Inserting queue e version) (createSyncJobTransactional e.params version)
      (fun answer => Answered queue e (.returned answer.jobId)) (Inserting queue e version) := by
  have hleaves : Faulty.Leaves unrolled (do
      let created ← createJob e.params version
      OutboxEventRepository.create
        (.sync (.ofJob .AUTHORIZATION_SYNC_REQUESTED created.1 created.2))
      pure (SyncJobResponseDto.fromEntity created.1 created.2 false queuedSuccessfully)) :=
    (leaves_createJob e.params version).bind fun _ => (leaves_createEvent _).bind fun _ =>
      Faulty.leaves_pure _
  have hok : ∀ w answer w', Inserting queue e version w.state →
      createSyncJobTransactional e.params version w = (.ok answer, w') →
      Answered queue e (.returned answer.jobId) w'.state := fun _ _ _ hw hrun =>
    created_follows hw hrun
  unfold createSyncJobTransactional runInTransaction at hok ⊢
  refine hleaves.transaction (Faulty.triple_of_ok fun w answer w' hw hrun =>
    hok w answer w' hw (Faulty.transaction_ok.mpr hrun)) fun s s' hs hsame => ?_
  exact hs.mono fun queue' hinserts =>
    ⟨hinserts.toAsks.congr (mirrored_rollback hsame), hinserts.free⟩

/-- The request that could not insert does not find a job either. -/
theorem conflict_follows (htenant : ctx.tenantCode = e.params.tenantCode) (error : Failure) :
    Faulty.Triple (Inserting queue e version)
      (handleInFlightConflict ctx e.params version error)
      (fun answer => Answered queue e (.returned answer.jobId)) (Answered queue e .threw) := by
  unfold handleInFlightConflict
  split
  · have hread : Faulty.Triple (Inserting queue e version)
        (findInFlightJob ctx e.params.source version)
        (fun found s => found = none ∧ Inserting queue e version s) (Answered queue e .threw) := by
      unfold findInFlightJob readDb
      refine Faulty.triple_read (fun s hs => hs.threw) fun s hs => ⟨?_, hs⟩
      show inFlightJob s.db.jobs ctx.tenantCode _ _ = none
      unfold inFlightJob
      rw [htenant, hs.free]
      rfl
    refine hread.bind fun found => ?_
    cases found with
    | none => exact Faulty.triple_throw fun s hs => hs.2.threw
    | some existing =>
      rintro w ⟨hsome, -⟩
      cases hsome
  · exact Faulty.triple_throw fun s hs => hs.threw

theorem enqueueAt_follows (htenant : ctx.tenantCode = e.params.tenantCode) (version : Nat) :
    Faulty.Triple (Asking queue e (.checking version)) (enqueueAt ctx e.params version)
      (fun answer => Answered queue e (.returned answer.jobId)) (Answered queue e .threw) := by
  refine (asks_readDb _ (.checking version)).bind fun found => ?_
  rcases found with _ | ⟨id, job⟩
  · have hinserts : ∀ s, none = inFlightJob s.db.jobs ctx.tenantCode e.params.source version ∧
        Asking queue e (.checking version) s → Inserting queue e version s := by
      rintro s ⟨hnone, hs⟩
      rw [htenant] at hnone
      refine hs.step fun queue' hasks => ?_
      have hstep : queue'.callStep e.index (e.call (.checking version)) .check
          (.checking version) =
          some (queue'.setCall e.index (e.call (.checking version)) (.inserting version)) := by
        simp only [SyncQueue.callStep, Enqueuing.call, hasks.mirrors.jobs,
          inFlightJob_none hnone.symm]
      obtain ⟨i, queue'', hstep, hasks'⟩ := hasks.move .check hstep
      exact ⟨i, queue'', hstep, hasks', inFlightJob_none hnone.symm⟩
    exact ((createSyncJobTransactional_follows.mono hinserts (fun _ _ hs => hs)
      fun _ hs => hs).tryCatch (conflict_follows htenant))
  · refine Faulty.triple_pure fun s hs => ?_
    obtain ⟨hfound, hs⟩ := hs
    rw [htenant] at hfound
    obtain ⟨id', hin, hjob⟩ := Option.bind_eq_some_iff.mp hfound.symm
    obtain ⟨job', -, heq⟩ := Option.map_eq_some_iff.mp hjob
    obtain ⟨rfl, rfl⟩ := Prod.mk.inj heq
    have hreturned : Asking queue e (.returned (some id')) s := by
      refine hs.step fun queue' hasks => hasks.move .check ?_
      simp only [SyncQueue.callStep, Enqueuing.call, hasks.mirrors.jobs, hin]
    exact hreturned.mono fun _ hasks => hasks.answers

/-- The call as a whole. -/
theorem enqueueSyncJob_follows (htenant : ctx.tenantCode = e.params.tenantCode) :
    Faulty.Triple (Asking queue e .resolving) (enqueueSyncJob ctx e.params)
      (fun answer => Answered queue e (.returned answer.jobId)) (Answered queue e .threw) := by
  unfold enqueueSyncJob
  split
  next hignore =>
    have hchecking : ∀ s, Asking queue e .resolving s →
        Asking queue e (.checking (e.params.sourceVersion.getD 1)) s := fun s hs =>
      hs.step fun queue' hasks => hasks.move .resolve (if_pos hignore)
    exact (enqueueAt_follows htenant _).mono hchecking (fun _ _ hs => hs) fun _ hs => hs
  next hvalidates =>
    refine (resolve_follows htenant (Bool.eq_false_iff.mpr hvalidates)).bind fun versions => ?_
    unfold Resolves
    split
    next => exact Faulty.triple_pure fun s hs => hs
    next => exact enqueueAt_follows htenant _

end AuthorizationSyncService

end AccessService.Authorization
