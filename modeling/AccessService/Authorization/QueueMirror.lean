/-
  AccessService.Authorization.QueueMirror

  The services' store and the synchronization queue as a transition system: what the one has
  of the other (`Mirrors`), and which programs leave that alone.
-/

import AccessService.Authorization.JobRuns
import AccessService.Authorization.SyncQueue
import AccessService.Lib.Simulation

namespace AccessService.Authorization

open AccessService.Lib AccessService.Lib.Transition AccessService.Pg AccessService.Persistence
open AccessService.UserGroups

-- ============================================================================
-- The queue that a store holds
-- ============================================================================

/-- The event, if the queue is what it is about. -/
def syncEvent : OutboxEvent → Option SyncEvent
  | .sync event => some event
  | .membershipReconciled .. => none

def groupRow (g : UserGroup) : SourceRow where
  tenantCode := g.tenantCode
  version := g.version
  projectionVersion := g.projectionVersion
  hasMatchingRule := g.matchingRule.isSome

def roleRow (r : Role) : SourceRow where
  tenantCode := r.tenantCode
  version := r.version
  projectionVersion := r.projectionVersion
  hasMatchingRule := false

def sourceRow (db : Database) (source : SourceRef) : Option SourceRow :=
  match source.sourceType with
  | .USER_GROUP => (db.groups.rowAt source.sourceId).map groupRow
  | .ROLE => (db.roles.rowAt source.sourceId).map roleRow

/-- The queue has the time, the jobs, the events, the locks and the sources of the store. -/
structure Mirrors (s : Store) (queue : SyncQueue) : Prop where
  now : queue.now = s.now
  jobs : queue.jobs = s.db.jobs
  outbox : queue.outbox = s.db.outbox.filterMap syncEvent
  locks : queue.locks = s.locks
  sources : queue.sources = sourceRow s.db

/-- All of a store that a queue mirrors. -/
def mirrored (s : Store) : (JobTable × SessionLocks × Timestamp) × List OutboxEvent ×
    Keyed UserGroup UserGroup.id × Keyed Role Role.id :=
  (queueOf s, s.db.outbox, s.db.groups, s.db.roles)

section Mirrors

variable {s s' : Store} {queue : SyncQueue}

theorem Mirrors.congr (h : Mirrors s queue) (hsame : mirrored s' = mirrored s) :
    Mirrors s' queue := by
  obtain ⟨hqueue, houtbox, hgroups, hroles⟩ : queueOf s' = queueOf s ∧
      s'.db.outbox = s.db.outbox ∧ s'.db.groups = s.db.groups ∧ s'.db.roles = s.db.roles := by
    simpa only [mirrored, Prod.mk.injEq] using hsame
  obtain ⟨hjobs, hlocks, hnow⟩ : s'.db.jobs = s.db.jobs ∧ s'.locks = s.locks ∧ s'.now = s.now := by
    simpa only [queueOf, Prod.mk.injEq] using hqueue
  refine ⟨h.now.trans hnow.symm, h.jobs.trans hjobs.symm, ?_, h.locks.trans hlocks.symm, ?_⟩
  · rw [houtbox]
    exact h.outbox
  · rw [h.sources]
    funext source
    rw [sourceRow, sourceRow, hgroups, hroles]

/-- An update of a job, in both. -/
theorem Mirrors.update (h : Mirrors s queue) (jobs : JobTable) :
    Mirrors { s with db := { s.db with jobs := jobs } } { queue with jobs := jobs } :=
  ⟨h.now, rfl, h.outbox, h.locks, h.sources⟩

/-- A new event, in both. -/
theorem Mirrors.append {event : SyncEvent} (h : Mirrors s queue) :
    Mirrors { s with db := { s.db with outbox := s.db.outbox ++ [.sync event] } }
      (queue.append event) := by
  refine ⟨h.now, h.jobs, ?_, h.locks, h.sources⟩
  show queue.outbox ++ [event] = _
  rw [h.outbox, List.filterMap_append]
  rfl

theorem Mirrors.setPhase {w : Nat} {worker : Worker} {phase : WorkerPhase}
    (h : Mirrors s queue) : Mirrors s (queue.setPhase w worker phase) :=
  ⟨h.now, h.jobs, h.outbox, h.locks, h.sources⟩

theorem Mirrors.withLocks (h : Mirrors s queue) (locks : SessionLocks) :
    Mirrors { s with locks := locks } { queue with locks := locks } :=
  ⟨h.now, h.jobs, h.outbox, rfl, h.sources⟩

/-- An update by key, of the row that a source has. -/
theorem rowAt_update {α : Type} {key : α → Uuid} (t : Keyed α key) {f : α → α}
    (hkey : ∀ a, key (f a) = key a) (id : Uuid) :
    (t.update f hkey).rowAt id = (t.rowAt id).map f :=
  Keyed.find?_update hkey fun a => by rw [hkey]

/-- The row as `updateProjectionVersion` of the queue leaves it. -/
def SourceRow.told (tenantCode : String) (version : Nat) (row : SourceRow) : SourceRow :=
  if row.tenantCode = tenantCode then { row with projectionVersion := version } else row

/-- An update of one row, seen as a source. -/
theorem rowAt_written {α β : Type} {key : α → Uuid} (t : Keyed α key) {row : α → β} {f : α → α}
    {g : β → β} {id : Uuid} (hkey : ∀ a, key (f a) = key a)
    (hrow : ∀ a, row (f a) = if key a = id then g (row a) else row a) (id' : Uuid) :
    (if id' = id then ((t.rowAt id').map row).map g else (t.rowAt id').map row) =
      ((t.update f hkey).rowAt id').map row := by
  rw [rowAt_update]
  rcases hfound : t.rowAt id' with _ | a
  · split <;> rfl
  · obtain ⟨-, rfl⟩ := Keyed.rowAt_eq_some.mp hfound
    simp only [Option.map_some, hrow]
    split <;> rfl

theorem groupRow_withProjectionVersion (tenantCode : String) (id : Uuid) (version : Nat)
    (g : UserGroup) :
    groupRow (UserGroupRepository.withProjectionVersion tenantCode id version g) =
      if g.id = id then (groupRow g).told tenantCode version else groupRow g := by
  unfold UserGroupRepository.withProjectionVersion SourceRow.told
  by_cases hid : g.id = id
  · by_cases htenant : g.tenantCode = tenantCode
    · rw [if_pos ⟨htenant, hid⟩, if_pos hid, if_pos (show (groupRow g).tenantCode = _ from htenant)]
      rfl
    · rw [if_neg fun h => htenant h.1, if_pos hid,
        if_neg (show ¬(groupRow g).tenantCode = _ from htenant)]
  · rw [if_neg fun h => hid h.2, if_neg hid]

theorem roleRow_withProjectionVersion (tenantCode : String) (id : Uuid) (version : Nat)
    (r : Role) :
    roleRow (RoleRepository.withProjectionVersion tenantCode id version r) =
      if r.id = id then (roleRow r).told tenantCode version else roleRow r := by
  unfold RoleRepository.withProjectionVersion SourceRow.told
  by_cases hid : r.id = id
  · by_cases htenant : r.tenantCode = tenantCode
    · rw [if_pos ⟨htenant, hid⟩, if_pos hid, if_pos (show (roleRow r).tenantCode = _ from htenant)]
      rfl
    · rw [if_neg fun h => htenant h.1, if_pos hid,
        if_neg (show ¬(roleRow r).tenantCode = _ from htenant)]
  · rw [if_neg fun h => hid h.2, if_neg hid]

theorem Mirrors.groupVersion (h : Mirrors s queue) (tenantCode : String) (id : Uuid)
    (version : Nat) :
    Mirrors { s with db := { s.db with
        groups := s.db.groups.update
          (UserGroupRepository.withProjectionVersion tenantCode id version)
          (UserGroupRepository.withProjectionVersion_id tenantCode id version) } }
      (queue.updateProjectionVersion tenantCode ⟨.USER_GROUP, id⟩ version) := by
  refine ⟨h.now, h.jobs, h.outbox, h.locks, funext fun ref => ?_⟩
  obtain ⟨type, id'⟩ := ref
  simp only [SyncQueue.updateProjectionVersion, h.sources, sourceRow, SourceRef.mk.injEq]
  cases type with
  | ROLE => simp
  | USER_GROUP =>
    simp only [true_and]
    exact rowAt_written s.db.groups _ (groupRow_withProjectionVersion tenantCode id version) id'

theorem Mirrors.roleVersion (h : Mirrors s queue) (tenantCode : String) (id : Uuid)
    (version : Nat) :
    Mirrors { s with db := { s.db with
        roles := s.db.roles.update
          (RoleRepository.withProjectionVersion tenantCode id version)
          (RoleRepository.withProjectionVersion_id tenantCode id version) } }
      (queue.updateProjectionVersion tenantCode ⟨.ROLE, id⟩ version) := by
  refine ⟨h.now, h.jobs, h.outbox, h.locks, funext fun ref => ?_⟩
  obtain ⟨type, id'⟩ := ref
  simp only [SyncQueue.updateProjectionVersion, h.sources, sourceRow, SourceRef.mk.injEq]
  cases type with
  | USER_GROUP => simp
  | ROLE =>
    simp only [true_and]
    exact rowAt_written s.db.roles _ (roleRow_withProjectionVersion tenantCode id version) id'

/-- Telling a source what it has been told, or another tenant's, changes nothing. -/
theorem Mirrors.untold {tenantCode : String} {source : SourceRef} {version : Nat}
    (h : Mirrors s queue)
    (hsame : ∀ row, sourceRow s.db source = some row → row.told tenantCode version = row) :
    Mirrors s (queue.updateProjectionVersion tenantCode source version) := by
  refine ⟨h.now, h.jobs, h.outbox, h.locks, funext fun ref => ?_⟩
  simp only [SyncQueue.updateProjectionVersion, h.sources]
  split
  next href =>
    rw [href]
    rcases hrow : sourceRow s.db source with _ | row
    · rfl
    · exact congrArg some (hsame row hrow)
  · rfl

theorem SourceRow.told_other {tenantCode : String} {version : Nat} {row : SourceRow}
    (hother : row.tenantCode ≠ tenantCode) : row.told tenantCode version = row :=
  if_neg hother

end Mirrors

-- ============================================================================
-- Programs that leave the queue alone
-- ============================================================================

theorem leaves_mirrored {α : Type} {x : Service α} (hqueue : Faulty.Leaves queueOf x)
    (htables : Faulty.Leaves Store.tables x) : Faulty.Leaves mirrored x := by
  intro w
  have hqueue := hqueue w
  have htables := htables w
  simp only [mirrored, hqueue]
  exact congrArg (fun db => (queueOf w.state, db.outbox, db.groups, db.roles)) htables

theorem recompute_mirrored (ctx : Context) (tenantCode : String) (userId : Uuid) :
    Faulty.Leaves mirrored
      (EffectiveRoleProjectionService.recomputeUserEffectiveRoles ctx tenantCode userId) :=
  leaves_mirrored (recompute_steady ctx tenantCode userId).leaves
    (EffectiveRoleProjectionService.recompute_leavesTables ctx tenantCode userId)

-- ============================================================================
-- Transactions
-- ============================================================================

/-- What no rollback brings back, of all that a queue mirrors. -/
def unrolled (s : Store) : Timestamp × SessionLocks := (s.now, s.locks)

theorem leaves_createEvent (event : OutboxEvent) :
    Faulty.Leaves unrolled (OutboxEventRepository.create event) := by
  unfold OutboxEventRepository.create writeDb
  exact Faulty.leaves_write fun _ => rfl

theorem mirrored_rollback {s s' : Store} (h : unrolled s' = unrolled s) :
    mirrored { s' with db := s.db } = mirrored s := by
  obtain ⟨hnow, hlocks⟩ := Prod.mk.inj h
  simp only [mirrored, queueOf, hnow, hlocks]

end AccessService.Authorization
