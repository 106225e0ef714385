/-
  AccessService.Authorization.TerminalJobs

  COMPLETED and FAILED are final, and a job ends with one event.

  Every status write of the queue is an update by id that looks at nothing.
  What keeps a finished job finished is that each write still finds the job as
  it was read: a claim takes a job that is PENDING, and the watchdog touches
  only a job that is PROCESSING and that no worker executes any more.  Then a
  worker that executes a job is the only one, and the job is PROCESSING until
  that worker ends it.
-/

import AccessService.Authorization.SyncQueueMoves

namespace AccessService.Authorization

open AccessService.Lib.Transition AccessService.Lib.Rows

namespace SyncQueue

/-- The events about the end of a job. -/
def terminalCount (outbox : List SyncEvent) (id : JobId) : Nat :=
  outbox.countP fun event =>
    event.type ≠ .AUTHORIZATION_SYNC_REQUESTED && event.jobId = id

/-- A claim finds its job PENDING still; the watchdog finds its job PROCESSING
    still, and executed by nobody. -/
def WritesFresh (s : SyncQueue) : Action → Prop
  | .worker w .claim =>
    ∀ worker ∈ s.workers[w]?, ∀ id ∈ selected? worker.phase, s.jobs.statusOf id = some .PENDING
  | .watchdog r =>
    ∀ list ∈ s.watchdogs[r]?, ∀ stuck ∈ list.head?,
      s.jobs.statusOf stuck.id = some .PROCESSING ∧
        ∀ worker ∈ s.workers, executing? worker.phase ≠ some stuck.id
  | _ => True

instance (s : SyncQueue) (action : Action) : Decidable (WritesFresh s action) :=
  match action with
  | .worker _ .claim => inferInstanceAs (Decidable (∀ _ ∈ _, _))
  | .watchdog _ => inferInstanceAs (Decidable (∀ _ ∈ _, _))
  | .worker _ (.acquire _) | .worker _ (.select _) | .worker _ (.progress _ _)
  | .worker _ .reconcile | .worker _ .throw | .worker _ (.complete _) | .worker _ .fail
  | .worker _ .failError | .worker _ .claimError | .worker _ (.release _) | .worker _ .consume
  | .tick _ | .deliver _ | .enqueue _ | .call _ _ | .watchdogScan _
  | .editLoad _ | .editSave _ _ | .editRole _ => .isTrue trivial

-- ============================================================================
-- Who executes what
-- ============================================================================

/-- A job is executed by one worker at most, and is PROCESSING meanwhile; it has an
    end event exactly when it has ended. -/
structure Owned (status : JobId → Option SyncJobStatus) (run : Nat → Option JobId)
    (count : JobId → Nat) : Prop where
  processing : ∀ w id, run w = some id → status id = some .PROCESSING
  alone : ∀ w w' id, run w = some id → run w' = some id → w = w'
  counted : ∀ id, count id = if (status id).any SyncJobStatus.terminal then 1 else 0

section Owned

variable {status status' : JobId → Option SyncJobStatus} {run run' : Nat → Option JobId}
  {count count' : JobId → Nat} {id : JobId} {w : Nat}

/-- A worker that stops executing, or goes on, changes nothing. -/
theorem Owned.drop (h : Owned status run count) (hrun : ∀ v i, run' v = some i → run v = some i) :
    Owned status run' count where
  processing v i hv := h.processing v i (hrun v i hv)
  alone v v' i hv hv' := h.alone v v' i (hrun v i hv) (hrun v' i hv')
  counted := h.counted

/-- A PENDING job is claimed. -/
theorem Owned.claim (h : Owned status run count) (hpending : status id = some .PENDING)
    (hstatus : ∀ i, status' i = if i = id then some .PROCESSING else status i)
    (hrun : ∀ v, run' v = if v = w then some id else run v) : Owned status' run' count := by
  have hidle : ∀ v, run v ≠ some id := by
    intro v hv
    have hprocessing := h.processing v id hv
    rw [hpending] at hprocessing
    cases hprocessing
  constructor
  · intro v i hv
    rw [hrun] at hv
    split at hv
    · cases hv
      rw [hstatus, if_pos rfl]
    · have hne : i ≠ id := fun heq => hidle v (heq ▸ hv)
      rw [hstatus, if_neg hne]
      exact h.processing v i hv
  · intro v v' i hv hv'
    rw [hrun] at hv hv'
    split at hv <;> split at hv'
    next h1 h2 => rw [h1, h2]
    · cases hv
      exact absurd hv' (hidle v')
    · cases hv'
      exact absurd hv (hidle v)
    · exact h.alone v v' i hv hv'
  · intro i
    rw [h.counted i, hstatus]
    by_cases hi : i = id
    · simp [hi, hpending, SyncJobStatus.terminal, SyncJobStatus.inFlight]
    · simp [hi]

/-- A PROCESSING job that nobody executes (any more) gets another status. -/
theorem Owned.overwrite {new : SyncJobStatus} (h : Owned status run count)
    (hprocessing : status id = some .PROCESSING) (hidle : ∀ v, run' v ≠ some id)
    (hrun : ∀ v i, run' v = some i → run v = some i)
    (hstatus : ∀ i, status' i = if i = id then some new else status i)
    (hcount : ∀ i, count' i = count i + if i = id ∧ SyncJobStatus.terminal new then 1 else 0) :
    Owned status' run' count' := by
  constructor
  · intro v i hv
    have hne : i ≠ id := fun heq => hidle v (heq ▸ hv)
    rw [hstatus, if_neg hne]
    exact h.processing v i (hrun v i hv)
  · intro v v' i hv hv'
    exact h.alone v v' i (hrun v i hv) (hrun v' i hv')
  · intro i
    rw [hcount, h.counted i, hstatus]
    by_cases hi : i = id
    · subst hi
      simp [hprocessing, SyncJobStatus.terminal, SyncJobStatus.inFlight]
    · simp [hi]

/-- A new job. -/
theorem Owned.insert (h : Owned status run count) (hnew : status id = none)
    (hstatus : ∀ i, status' i = if i = id then some .PENDING else status i)
    (hcount : ∀ i, count' i = count i) : Owned status' run count' := by
  have hidle : ∀ v, run v ≠ some id := by
    intro v hv
    have hprocessing := h.processing v id hv
    rw [hnew] at hprocessing
    cases hprocessing
  constructor
  · intro v i hv
    have hne : i ≠ id := fun heq => hidle v (heq ▸ hv)
    rw [hstatus, if_neg hne]
    exact h.processing v i hv
  · exact h.alone
  · intro i
    rw [hcount, h.counted i, hstatus]
    by_cases hi : i = id
    · simp [hi, hnew, SyncJobStatus.terminal, SyncJobStatus.inFlight]
    · simp [hi]

/-- No final status is overwritten. -/
def Keeps (status status' : JobId → Option SyncJobStatus) : Prop :=
  ∀ i st, status i = some st → st.terminal = true → status' i = some st

/-- A write of a status that finds no final one. -/
theorem Keeps.of_write {new : SyncJobStatus}
    (hstatus : ∀ i, status' i = if i = id then some new else status i)
    (hold : ∀ st, status id = some st → st.terminal = false) : Keeps status status' := by
  intro i st hi hterminal
  rw [hstatus]
  split
  next heq =>
    subst heq
    rw [hold st hi] at hterminal
    cases hterminal
  · exact hi

theorem Keeps.of_running {old new : SyncJobStatus}
    (hstatus : ∀ i, status' i = if i = id then some new else status i)
    (hold : status id = some old) (hrunning : old.terminal = false) : Keeps status status' :=
  .of_write hstatus fun _ hst => Option.some.inj (hold.symm.trans hst) ▸ hrunning

end Owned

-- ============================================================================
-- Every step
-- ============================================================================

/-- The invariant on a state. -/
def JobsOwned (s : SyncQueue) : Prop :=
  Owned s.jobs.statusOf (runs s.workers) (terminalCount s.outbox)

/-- The worker that leaves `id` was the only one on it. -/
theorem runs_idle {workers : List Worker} {w : Nat} {worker : Worker} {phase : WorkerPhase}
    {id : JobId} {status : JobId → Option SyncJobStatus} {count : JobId → Nat}
    (h : Owned status (runs workers) count) (hw : workers[w]? = some worker)
    (hrun : executing? worker.phase = some id) (hphase : executing? phase = none) (v : Nat) :
    runs (workers.set w { worker with phase := phase }) v ≠ some id := by
  intro hv
  have hv' := runs_drop hw hphase hv
  have hrunw : runs workers w = some id := (view_of_row hw).trans hrun
  obtain rfl := h.alone v w id hv' hrunw
  rw [runs, view_set _ hw, if_pos rfl, hphase] at hv
  cases hv

/-- The event that goes with a final status. -/
theorem terminalCount_concat {outbox : List SyncEvent} {type : SyncEventType} {id : JobId}
    {job : AuthorizationSyncJob} {new : SyncJobStatus} (htype : type ≠ .AUTHORIZATION_SYNC_REQUESTED)
    (hnew : new.terminal = true) (i : JobId) :
    terminalCount (outbox ++ [.ofJob type id job]) i =
      terminalCount outbox i + if i = id ∧ new.terminal then 1 else 0 := by
  have hcomm : (id = i) = (i = id) := propext eq_comm
  simp [terminalCount, List.countP_append, SyncEvent.ofJob, htype, hnew, hcomm]

theorem jobsOwned_step {s s' : SyncQueue} {action : Action} (h : JobsOwned s)
    (hok : WritesFresh s action) (hmove : Move s action s') :
    JobsOwned s' ∧ Keeps s.jobs.statusOf s'.jobs.statusOf := by
  have hkeep : Keeps s.jobs.statusOf s.jobs.statusOf := fun _ _ hi _ => hi
  cases hmove with
  | deliver he hin =>
    refine ⟨?_, hkeep⟩
    show Owned s.jobs.statusOf (runs (s.workers ++ [_])) (terminalCount s.outbox)
    rw [runs, view_concat _ rfl]
    exact h
  | acquire hw hp hlock => exact ⟨h.drop (fun _ _ => runs_drop hw rfl), hkeep⟩
  | refuse hw hp hlock => exact ⟨h.drop (fun _ _ => runs_drop hw rfl), hkeep⟩
  | select hw hp hnext => exact ⟨h.drop (fun _ _ => runs_drop hw rfl), hkeep⟩
  | selectNone hw hp hnone => exact ⟨h.drop (fun _ _ => runs_drop hw rfl), hkeep⟩
  | @claim w worker x id jobs job hw hp hjob hjobs =>
    have hpending : s.jobs.statusOf id = some .PENDING :=
      hok worker hw id (by rw [hp]; rfl)
    have hstatus := JobTable.statusOf_update hjob hjobs
    have hrun := view_set (fun worker : Worker => executing? worker.phase) hw
      { worker with phase := .matching x id }
    exact ⟨h.claim hpending hstatus hrun, .of_running hstatus hpending rfl⟩
  | claimFails hw hp => exact ⟨h.drop (fun _ _ => runs_drop hw rfl), hkeep⟩
  | progress hw hp hjobs =>
    have hstatus := JobTable.statusOf_update_same hjobs fun _ => rfl
    show Owned (JobTable.statusOf _) _ _ ∧ Keeps _ (JobTable.statusOf _)
    rw [hstatus]
    exact ⟨h, hkeep⟩
  | project hw hp hjob =>
    refine ⟨?_, hkeep⟩
    show Owned _ (runs (s.workers.set _ _)) _
    rw [runs_same hw (by rw [hp]; rfl)]
    exact h
  | executes hw hp hphase =>
    refine ⟨?_, hkeep⟩
    show Owned _ (runs (s.workers.set _ _)) _
    rw [runs_same hw (by rcases hp with hp | hp <;> rcases hphase with rfl | rfl <;> rw [hp] <;> rfl)]
    exact h
  | @complete w worker x id jobs job n tenantCode hw hp hjob hjobs =>
    have hrun : executing? worker.phase = some id := by rw [hp]; rfl
    have hprocessing := h.processing w id ((view_of_row hw).trans hrun)
    have hstatus := JobTable.statusOf_update hjob hjobs
    exact ⟨h.overwrite hprocessing (runs_idle h hw hrun rfl) (fun _ _ => runs_drop hw rfl) hstatus
      (terminalCount_concat (by decide) rfl), .of_running hstatus hprocessing rfl⟩
  | @fail w worker x id jobs job hw hp hjob hjobs =>
    have hrun : executing? worker.phase = some id := by rw [hp]; rfl
    have hprocessing := h.processing w id ((view_of_row hw).trans hrun)
    have hstatus := JobTable.statusOf_update hjob hjobs
    exact ⟨h.overwrite hprocessing (runs_idle h hw hrun rfl) (fun _ _ => runs_drop hw rfl) hstatus
      (terminalCount_concat (by decide) rfl), .of_running hstatus hprocessing rfl⟩
  | failError hw hp => exact ⟨h.drop (fun _ _ => runs_drop hw rfl), hkeep⟩
  | release hw hp => exact ⟨h.drop (fun _ _ => runs_drop hw rfl), hkeep⟩
  | consume hw hp => exact ⟨h.drop (fun _ _ => runs_drop hw rfl), hkeep⟩
  | giveUp hw hp => exact ⟨h.drop (fun _ _ => runs_drop hw rfl), hkeep⟩
  | insert hc hp hjobs =>
    have hstatus := JobTable.statusOf_insert hjobs
    have hnew : s.jobs.statusOf s.jobs.length = none := by
      rw [JobTable.statusOf, List.getElem?_eq_none (Nat.le_refl _)]
      rfl
    refine ⟨h.insert hnew hstatus ?_, .of_write hstatus fun st hst => ?_⟩
    · intro i
      show terminalCount (s.outbox ++ [_]) i = terminalCount s.outbox i
      simp [terminalCount, List.countP_append, SyncEvent.ofJob]
    · rw [hnew] at hst
      cases hst
  | @reclaim r stuck rest jobs hr hretry hjobs =>
    obtain ⟨hprocessing, hidle⟩ := hok (stuck :: rest) hr stuck rfl
    obtain ⟨job, hjob, -⟩ := Option.map_eq_some_iff.mp hprocessing
    have hstatus := JobTable.statusOf_update hjob hjobs
    exact ⟨h.overwrite hprocessing (view_ne_iff.mpr hidle) (fun _ _ hv => hv) hstatus
      fun i => by simp [SyncJobStatus.terminal, SyncJobStatus.inFlight],
      .of_running hstatus hprocessing rfl⟩
  | @watchdogFail r stuck rest jobs job hr hjob hjobs =>
    obtain ⟨hprocessing, hidle⟩ := hok (stuck :: rest) hr stuck rfl
    have hstatus := JobTable.statusOf_update hjob hjobs
    exact ⟨h.overwrite hprocessing (view_ne_iff.mpr hidle) (fun _ _ hv => hv) hstatus
      (terminalCount_concat (by decide) rfl), .of_running hstatus hprocessing rfl⟩
  | _ => exact ⟨h, hkeep⟩

-- ============================================================================
-- Runs
-- ============================================================================

theorem jobsOwned_of_reachable {s : SyncQueue} (h : system.Reachable WritesFresh s) :
    JobsOwned s := by
  refine h.invariant JobsOwned (fun s₀ hinit => ?_) fun t action t' _ hI hok hstep =>
    (jobsOwned_step hI hok (step_move hstep)).1
  have hidle : ∀ w, runs s₀.workers w = none := by
    intro w
    simp [view, hinit.workers]
  constructor
  · intro w id hw
    rw [hidle w] at hw
    cases hw
  · intro w w' id hw
    rw [hidle w] at hw
    cases hw
  · intro id
    simp [terminalCount, hinit.outbox, JobTable.statusOf, hinit.jobs]

/-- While each claim finds its job PENDING still and the watchdog's writes find
    their jobs PROCESSING still and executed by nobody, a job that is COMPLETED or
    FAILED stays as it is, and no job has two events about its end. -/
theorem terminal_absorbing {s : SyncQueue} (h : system.Reachable WritesFresh s) :
    (∀ s' id status, system.Steps WritesFresh s s' → s.jobs.statusOf id = some status →
        status.terminal = true → s'.jobs.statusOf id = some status) ∧
      ∀ id, terminalCount s.outbox id ≤ 1 := by
  constructor
  · intro s' id status hsteps hstatus hterminal
    refine hsteps.preserves (fun t => t.jobs.statusOf id = some status) ?_ h hstatus
    intro t action t' hreach ht hok hstep
    exact (jobsOwned_step (jobsOwned_of_reachable hreach) hok (step_move hstep)).2
      id status ht hterminal
  · intro id
    rw [(jobsOwned_of_reachable h).counted id]
    split <;> omega

theorem terminal_absorbing_sample :
    ∃ s, system.run WritesFresh sampleQueue
        (enqueueRun 0 sampleParams ++ handleRun 0 0 0 0) = some s ∧
      (∀ s' id status, system.Steps WritesFresh s s' → s.jobs.statusOf id = some status →
        status.terminal = true → s'.jobs.statusOf id = some status) ∧
      ∀ id, terminalCount s.outbox id ≤ 1 := by
  have hrun : (system.run WritesFresh sampleQueue
      (enqueueRun 0 sampleParams ++ handleRun 0 0 0 0)).isSome = true := by
    decide +kernel
  obtain ⟨s, hs⟩ := Option.isSome_iff_exists.mp hrun
  exact ⟨s, hs, terminal_absorbing (.of_run initial_sampleQueue hs)⟩

-- ============================================================================
-- What a stale watchdog list does
-- ============================================================================

/-- A slow worker: the watchdog lists its job after ten minutes, then the worker
    completes it. -/
def slowRun : List Action :=
  enqueueRun 0 sampleParams ++
    [.deliver 0, .worker 0 (.acquire (some 0)), .worker 0 (.select (some 0)), .worker 0 .claim,
      .tick 600001, .watchdogScan [0], .worker 0 .reconcile, .worker 0 (.complete 0),
      .worker 0 (.release (some 0))]

/-- The watchdog acts on its list, and the event, delivered again, is handled. -/
def reclaimedRun : List Action := .watchdog 0 :: handleRun 0 1 0 0

theorem slowRun_reclaimed :
    (system.run Always sampleQueue slowRun).bind (fun s =>
      (system.run Always s [.watchdog 0]).map fun s' =>
        (s.jobs.statusOf 0, s'.jobs.statusOf 0)) =
    some (some .COMPLETED, some .PENDING) := by
  decide +kernel

theorem reclaimedRun_completes_twice :
    (system.run Always sampleQueue (slowRun ++ reclaimedRun)).map
      (fun s => terminalCount s.outbox 0) = some 2 := by
  decide +kernel

/-- With any order of steps, a COMPLETED job becomes PENDING again, and is completed
    a second time. -/
theorem not_terminal_absorbing :
    (∃ s s', system.Reachable Always s ∧ system.Steps Always s s' ∧
        s.jobs.statusOf 0 = some .COMPLETED ∧ s'.jobs.statusOf 0 = some .PENDING) ∧
      ∃ s, system.Reachable Always s ∧ terminalCount s.outbox 0 = 2 := by
  constructor
  · obtain ⟨s, hrun, hmap⟩ := Option.bind_eq_some_iff.mp slowRun_reclaimed
    obtain ⟨s', hrun', hstatus⟩ := Option.map_eq_some_iff.mp hmap
    obtain ⟨hbefore, hafter⟩ := Prod.mk.inj hstatus
    exact ⟨s, s', .of_run initial_sampleQueue hrun, System.steps_of_run hrun', hbefore, hafter⟩
  · obtain ⟨s, hrun, hcount⟩ := Option.map_eq_some_iff.mp reclaimedRun_completes_twice
    exact ⟨s, .of_run initial_sampleQueue hrun, hcount⟩

end SyncQueue

end AccessService.Authorization
