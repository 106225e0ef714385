/-
  AccessService.Authorization.WorkerExclusion

  One worker at a time for a tenant, and no lock left behind.

  The lock is a session-level advisory lock, and the acquire and the release
  query run on whatever session the pool hands out.  When no acquire runs on a
  session that holds the lock already and every release runs on the session of
  its acquire, each held lock belongs to exactly one worker that is between the
  two queries, and is held once.
-/

import AccessService.Authorization.SyncQueueMoves

namespace AccessService.Authorization

open AccessService.Lib.Transition AccessService.Lib.AdvisoryLock AccessService.Lib.Rows

namespace SyncQueue

-- ============================================================================
-- The two properties and the condition
-- ============================================================================

/-- The worker is between a successful acquire and its release. -/
def Inside (worker : Worker) : Prop := (session? worker.phase).isSome = true

/-- `processNextJob` has returned. -/
def Returned (worker : Worker) : Prop :=
  (∃ threw, worker.phase = .returned threw) ∨ worker.phase = .done

/-- At most one call for the tenant is inside. -/
def ExclusiveFor (s : SyncQueue) (tenantCode : String) : Prop :=
  ∀ (w w' : Nat) (worker worker' : Worker),
    s.workers[w]? = some worker → s.workers[w']? = some worker' →
    worker.tenantCode = tenantCode → worker'.tenantCode = tenantCode →
    Inside worker → Inside worker' → w = w'

/-- Once every call on the tenant's lock has returned, no session holds it. -/
def FreeOnceReturned (s : SyncQueue) (tenantCode : String) : Prop :=
  (∀ worker ∈ s.workers,
      workerLockId worker.tenantCode = workerLockId tenantCode → Returned worker) →
    s.locks (workerLockId tenantCode) = none

/-- The pool keeps sessions apart: an acquire does not run on a session that
    holds the lock already, and a release runs on the session of its acquire. -/
def SessionsApart (s : SyncQueue) : Action → Prop
  | .worker w (.acquire (some x)) =>
    ∀ worker ∈ s.workers[w]?, ¬s.locks.HeldBy x (workerLockId worker.tenantCode)
  | .worker w (.release session) =>
    ∀ worker ∈ s.workers[w]?, session = session? worker.phase
  | _ => True

instance (s : SyncQueue) (action : Action) : Decidable (SessionsApart s action) :=
  match action with
  | .worker _ (.acquire (some _)) => inferInstanceAs (Decidable (∀ _ ∈ _, _))
  | .worker _ (.release _) => inferInstanceAs (Decidable (∀ _ ∈ _, _))
  | .worker _ (.acquire none) | .worker _ (.select _) | .worker _ .claim
  | .worker _ (.progress _ _) | .worker _ .reconcile | .worker _ .throw
  | .worker _ (.complete _) | .worker _ .fail | .worker _ .failError
  | .worker _ .claimError | .worker _ .consume
  | .tick _ | .deliver _ | .enqueue _ | .call _ _ | .watchdogScan _ | .watchdog _
  | .editLoad _ | .editSave _ _ | .editRole _ => .isTrue trivial

-- ============================================================================
-- Lock holders
-- ============================================================================

/-- The lock a worker is inside of, and its session. -/
def heldLock (worker : Worker) : Option (String × Session) :=
  (session? worker.phase).map fun x => (workerLockId worker.tenantCode, x)

abbrev holder : List Worker → Nat → Option (String × Session) := view heldLock

theorem holder_of_inside {workers : List Worker} {w : Nat} {worker : Worker} {x : Session}
    (hw : workers[w]? = some worker) (hx : session? worker.phase = some x) :
    holder workers w = some (workerLockId worker.tenantCode, x) := by
  rw [holder, view_of_row hw, heldLock, hx, Option.map_some]

/-- A held lock is held once, by the session of the one worker inside. -/
structure LocksMatch (locks : SessionLocks) (holders : Nat → Option (String × Session)) :
    Prop where
  held : ∀ w k x, holders w = some (k, x) → locks k = some ⟨x, 0⟩
  owned : ∀ k h, locks k = some h → ∃ w x, holders w = some (k, x)
  exclusive : ∀ w w' k x x', holders w = some (k, x) → holders w' = some (k, x') → w = w'

theorem locksMatch_acquire {locks : SessionLocks} {holders : Nat → Option (String × Session)}
    {w : Nat} {k : String} {x : Session} (h : LocksMatch locks holders)
    (hfree : locks k = none) (hout : holders w = none) :
    LocksMatch (locks.set k (some ⟨x, 0⟩)) fun v => if v = w then some (k, x) else holders v := by
  -- a worker inside of `k` would hold it
  have hnot : ∀ v y, holders v ≠ some (k, y) := by
    intro v y hv
    have hheld := h.held v k y hv
    rw [hfree] at hheld
    cases hheld
  constructor
  · intro v k' y hv
    split at hv
    · cases hv
      exact Locks.set_self _ _ _
    · have hne : k' ≠ k := by
        rintro rfl
        exact hnot v y hv
      rw [Locks.set_of_ne _ _ hne]
      exact h.held v k' y hv
  · intro k' l hl
    by_cases hk : k' = k
    · exact ⟨w, x, by rw [if_pos rfl, hk]⟩
    · rw [Locks.set_of_ne _ _ hk] at hl
      obtain ⟨v, y, hv⟩ := h.owned k' l hl
      refine ⟨v, y, ?_⟩
      rw [if_neg, hv]
      rintro rfl
      rw [hout] at hv
      cases hv
  · intro v v' k' y y' hv hv'
    split at hv <;> split at hv'
    next h1 h2 => rw [h1, h2]
    · cases hv
      exact absurd hv' (hnot v' y')
    · cases hv'
      exact absurd hv (hnot v y)
    · exact h.exclusive v v' k' y y' hv hv'

theorem locksMatch_release {locks : SessionLocks} {holders : Nat → Option (String × Session)}
    {w : Nat} {k : String} {x : Session} (h : LocksMatch locks holders)
    (hin : holders w = some (k, x)) :
    LocksMatch (locks.set k none) fun v => if v = w then none else holders v := by
  constructor
  · intro v k' y hv
    split at hv
    · cases hv
    next hne =>
      have hk : k' ≠ k := by
        rintro rfl
        exact hne (h.exclusive v w k' y x hv hin)
      rw [Locks.set_of_ne _ _ hk]
      exact h.held v k' y hv
  · intro k' l hl
    have hk : k' ≠ k := by
      rintro rfl
      rw [Locks.set_self] at hl
      cases hl
    rw [Locks.set_of_ne _ _ hk] at hl
    obtain ⟨v, y, hv⟩ := h.owned k' l hl
    refine ⟨v, y, ?_⟩
    rw [if_neg, hv]
    rintro rfl
    rw [hin] at hv
    cases hv
    exact hk rfl
  · intro v v' k' y y' hv hv'
    split at hv <;> split at hv'
    · cases hv
    · cases hv
    · cases hv'
    · exact h.exclusive v v' k' y y' hv hv'

-- ============================================================================
-- Every step keeps the locks matched
-- ============================================================================

/-- A phase change that keeps the session keeps the locks matched. -/
theorem locksMatch_setPhase {locks : SessionLocks} {workers : List Worker} {w : Nat}
    {worker : Worker} {phase : WorkerPhase} (h : LocksMatch locks (holder workers))
    (hw : workers[w]? = some worker) (hsame : session? phase = session? worker.phase) :
    LocksMatch locks (holder (workers.set w { worker with phase := phase })) := by
  have hheld : heldLock { worker with phase := phase } = heldLock worker := by
    simp [heldLock, hsame]
  rw [holder, view_set_same heldLock hw hheld]
  exact h

theorem locksMatch_step {s s' : SyncQueue} {action : Action}
    (h : LocksMatch s.locks (holder s.workers)) (hok : SessionsApart s action)
    (hmove : Move s action s') : LocksMatch s'.locks (holder s'.workers) := by
  cases hmove with
  | deliver he hin =>
    show LocksMatch s.locks (holder (s.workers ++ [_]))
    rw [holder, view_concat heldLock rfl]
    exact h
  | @acquire w worker x locks hw hp hlock =>
    have hfresh : ∀ y, some x = some y → ¬s.locks.HeldBy y (workerLockId worker.tenantCode) := by
      rintro y hy
      cases hy
      exact hok worker hw
    obtain ⟨y, hy, hfree, rfl⟩ := DistributedLockAdapter.acquireLock_fresh hlock hfresh
    cases hy
    have hout : holder s.workers w = none := by simp [view_of_row hw, heldLock, hp, session?]
    have hholder : holder (s.workers.set w { worker with phase := .locked x }) = _ :=
      funext (view_set heldLock hw _)
    show LocksMatch _ (holder (s.workers.set w { worker with phase := .locked x }))
    rw [hholder]
    exact locksMatch_acquire h hfree hout
  | @release w worker x threw session hw hp =>
    have hin : holder s.workers w = some (workerLockId worker.tenantCode, x) :=
      holder_of_inside hw (by rw [hp]; rfl)
    obtain rfl : session = some x := by
      rw [hok worker hw, hp]
      rfl
    have hunlock : s.locks.unlock x (workerLockId worker.tenantCode) = _ :=
      Locks.unlock_once (h.held w _ x hin)
    have hholder : holder (s.workers.set w { worker with phase := .returned threw }) = _ :=
      funext (view_set heldLock hw _)
    show LocksMatch (s.locks.unlock x (workerLockId worker.tenantCode)).1
      (holder (s.workers.set w { worker with phase := .returned threw }))
    rw [hunlock, hholder]
    exact locksMatch_release h hin
  | refuse hw hp hlock => exact locksMatch_setPhase h hw (by rw [hp]; rfl)
  | select hw hp hnext => exact locksMatch_setPhase h hw (by rw [hp]; rfl)
  | selectNone hw hp hnone => exact locksMatch_setPhase h hw (by rw [hp]; rfl)
  | claim hw hp hjob hjobs => exact locksMatch_setPhase h hw (by rw [hp]; rfl)
  | claimFails hw hp =>
    rcases hp with hp | ⟨id, hp⟩
    · exact locksMatch_setPhase h hw (by rw [hp]; rfl)
    · exact locksMatch_setPhase h hw (by rw [hp]; rfl)
  | project hw hp hjob => exact locksMatch_setPhase h hw (by rw [hp]; rfl)
  | executes hw hp hphase =>
    refine locksMatch_setPhase h hw ?_
    rcases hp with hp | hp <;> rcases hphase with rfl | rfl <;> rw [hp] <;> rfl
  | complete tenantCode hw hp hjob hjobs => exact locksMatch_setPhase h hw (by rw [hp]; rfl)
  | fail hw hp hjob hjobs => exact locksMatch_setPhase h hw (by rw [hp]; rfl)
  | failError hw hp => exact locksMatch_setPhase h hw (by rw [hp]; rfl)
  | consume hw hp => exact locksMatch_setPhase h hw (by rw [hp]; rfl)
  | giveUp hw hp => exact locksMatch_setPhase h hw (by rw [hp]; rfl)
  | _ => exact h

theorem locksMatch_of_reachable {s : SyncQueue} (h : system.Reachable SessionsApart s) :
    LocksMatch s.locks (holder s.workers) := by
  refine h.invariant (fun t => LocksMatch t.locks (holder t.workers)) (fun s₀ hinit => ?_)
    fun t action t' _ hI hok hstep => locksMatch_step hI hok (step_move hstep)
  have hnone : ∀ w, holder s₀.workers w = none := by
    intro w
    simp [view, hinit.workers]
  constructor
  · intro w k x hw
    rw [hnone w] at hw
    cases hw
  · intro k l hl
    rw [hinit.locks] at hl
    cases hl
  · intro w w' k x x' hw
    rw [hnone w] at hw
    cases hw

/-- While the pool keeps sessions apart, at most one call for a tenant is
    between its acquire and its release, and the tenant's lock is free once
    every call on it has returned. -/
theorem exclusive_and_free {s : SyncQueue} (h : system.Reachable SessionsApart s)
    (tenantCode : String) : ExclusiveFor s tenantCode ∧ FreeOnceReturned s tenantCode := by
  have hmatch := locksMatch_of_reachable h
  constructor
  · intro w w' worker worker' hw hw' ht ht' hin hin'
    obtain ⟨x, hx⟩ := Option.isSome_iff_exists.mp hin
    obtain ⟨x', hx'⟩ := Option.isSome_iff_exists.mp hin'
    have hk := holder_of_inside hw hx
    have hk' := holder_of_inside hw' hx'
    rw [ht] at hk
    rw [ht'] at hk'
    exact hmatch.exclusive w w' _ x x' hk hk'
  · intro hreturned
    cases hlock : s.locks (workerLockId tenantCode) with
    | none => rfl
    | some l =>
      obtain ⟨w, x, hw⟩ := hmatch.owned _ l hlock
      obtain ⟨worker, hworker, hsession⟩ := Option.bind_eq_some_iff.mp hw
      obtain ⟨y, hy, hpair⟩ := Option.map_eq_some_iff.mp hsession
      have hlockId : workerLockId worker.tenantCode = workerLockId tenantCode :=
        congrArg Prod.fst hpair
      rcases hreturned worker (mem_of_row hworker) hlockId with ⟨threw, hp⟩ | hp
      · rw [hp] at hy
        cases hy
      · rw [hp] at hy
        cases hy

theorem exclusive_and_free_sameSession :
    ∃ s, system.run SessionsApart sampleQueue
        (enqueueRun 0 sampleParams ++ handleRun 0 0 0 0) = some s ∧
      ExclusiveFor s "acme" ∧ FreeOnceReturned s "acme" := by
  have hrun : (system.run SessionsApart sampleQueue
      (enqueueRun 0 sampleParams ++ handleRun 0 0 0 0)).isSome = true := by
    decide +kernel
  obtain ⟨s, hs⟩ := Option.isSome_iff_exists.mp hrun
  exact ⟨s, hs, exclusive_and_free (.of_run initial_sampleQueue hs) "acme"⟩

-- ============================================================================
-- What shared and switched sessions do
-- ============================================================================

/-- Two handlings of one event, both locking on session 0. -/
def sharedSessionRun : List Action :=
  enqueueRun 0 sampleParams ++
    [.deliver 0, .deliver 0, .worker 0 (.acquire (some 0)), .worker 1 (.acquire (some 0))]

/-- One handling that locks on session 0 and unlocks on session 1. -/
def switchedSessionRun : List Action :=
  enqueueRun 0 sampleParams ++
    [.deliver 0, .worker 0 (.acquire (some 0)), .worker 0 (.select (some 0)), .worker 0 .claim,
      .worker 0 .reconcile, .worker 0 (.complete 0), .worker 0 (.release (some 1)),
      .worker 0 .consume]

theorem sharedSessionRun_phases :
    (system.run Always sampleQueue sharedSessionRun).map
      (fun s => s.workers.map fun worker => (worker.tenantCode, worker.phase)) =
    some [("acme", .locked 0), ("acme", .locked 0)] := by
  decide +kernel

theorem switchedSessionRun_lock :
    (system.run Always sampleQueue switchedSessionRun).map
      (fun s => (s.workers.map (·.phase), (s.locks (workerLockId "acme")).isSome)) =
    some ([.done], true) := by
  decide +kernel

/-- With any assignment of sessions, both properties fail. -/
theorem not_exclusive_not_free :
    (∃ s, system.Reachable Always s ∧ ¬ExclusiveFor s "acme") ∧
      ∃ s, system.Reachable Always s ∧ ¬FreeOnceReturned s "acme" := by
  constructor
  · obtain ⟨s, hrun, hphases⟩ := Option.map_eq_some_iff.mp sharedSessionRun_phases
    refine ⟨s, .of_run initial_sampleQueue hrun, ?_⟩
    intro hex
    have hrow : ∀ v : Nat, (s.workers[v]?).map (fun worker => (worker.tenantCode, worker.phase)) =
        [("acme", WorkerPhase.locked 0), ("acme", WorkerPhase.locked 0)][v]? := by
      intro v
      rw [← hphases, List.getElem?_map]
    obtain ⟨worker, hw, hview⟩ := Option.map_eq_some_iff.mp (hrow 0)
    obtain ⟨worker', hw', hview'⟩ := Option.map_eq_some_iff.mp (hrow 1)
    obtain ⟨ht, hp⟩ := Prod.mk.inj hview
    obtain ⟨ht', hp'⟩ := Prod.mk.inj hview'
    have hsame : 0 = 1 := hex 0 1 worker worker' hw hw' ht ht'
      (by rw [Inside, hp]; rfl) (by rw [Inside, hp']; rfl)
    cases hsame
  · obtain ⟨s, hrun, hlock⟩ := Option.map_eq_some_iff.mp switchedSessionRun_lock
    refine ⟨s, .of_run initial_sampleQueue hrun, ?_⟩
    intro hfree
    simp only [Prod.mk.injEq] at hlock
    obtain ⟨hphases, hheld⟩ := hlock
    have hdone : ∀ worker ∈ s.workers, worker.phase = .done := by
      intro worker hmem
      have := List.mem_map_of_mem (f := (·.phase)) hmem
      rw [hphases] at this
      exact List.mem_singleton.mp this
    rw [hfree fun worker hmem _ => .inr (hdone worker hmem)] at hheld
    cases hheld

end SyncQueue

end AccessService.Authorization
