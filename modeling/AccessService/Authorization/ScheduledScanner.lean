/-
  AccessService.Authorization.ScheduledScanner

  `scheduled-reconciliation-scanner.service.ts`: the sweep that asks for a job for each group
  and role whose version is ahead of its projection. What `enqueueSyncJob` does is left open:
  it may answer with a job, answer without one, or throw, in any pattern.
-/

import AccessService.Authorization.AuthorizationSync
import AccessService.Js.Grouping

namespace AccessService.Authorization.ScheduledReconciliationScanner

open AccessService.Js AccessService.Lib AccessService.Pg AccessService.Persistence

/-- What `findDirtyUserGroups` and `findDirtyRoles` select. -/
structure DirtyEntity where
  tenantCode : String
  id : Uuid
  version : Nat
  deriving DecidableEq

/-- What the sweep logs when it is done. -/
structure SweepSummary where
  tenantsScanned : Nat
  dirtyGroupsFound : Nat
  dirtyRolesFound : Nat
  jobsEnqueued : Nat
  deriving DecidableEq

/-- A call of `enqueueSyncJob`, and how it ended. -/
structure Call (ε : Type) where
  params : EnqueueParams
  answer : Except ε SyncJobResponseDto

/-- `if (response.jobId)` -/
def Call.returnedJob {ε : Type} (call : Call ε) : Bool :=
  match call.answer with
  | .ok response => response.jobId.isSome
  | .error _ => false

/-- The service's own state, and the calls made so far. -/
structure SweepState (σ ε : Type) where
  service : σ
  calls : List (Call ε) := []

/-- What the scanner asks for an entity, under the tenant it is working on. -/
def scheduledParams (tenantCode : String) (sourceType : SyncSourceType) (entity : DirtyEntity) :
    EnqueueParams where
  tenantCode := tenantCode
  source := ⟨sourceType, entity.id⟩
  sourceVersion := some entity.version
  triggerType := .SCHEDULED
  createdBy := some "SYSTEM"
  ignoreValidateSource := true

variable {σ ε : Type}

-- ============================================================================
-- The scanner
-- ============================================================================

section Scanner

variable (enqueueSyncJob : EnqueueParams → σ → Except ε SyncJobResponseDto × σ)

/-- The body of both inner loops; an error is logged and goes no further. -/
def tryEnqueue (params : EnqueueParams) (progress : Nat × SweepState σ ε) :
    Nat × SweepState σ ε :=
  let (jobsEnqueued, state) := progress
  let (answer, service) := enqueueSyncJob params state.service
  let state : SweepState σ ε := ⟨service, state.calls ++ [⟨params, answer⟩]⟩
  match answer with
  | .ok response => (if response.jobId.isSome then jobsEnqueued + 1 else jobsEnqueued, state)
  | .error _ => (jobsEnqueued, state)

def enqueueAll (tenantCode : String) (sourceType : SyncSourceType) (entities : List DirtyEntity)
    (progress : Nat × SweepState σ ε) : Nat × SweepState σ ε :=
  entities.foldl (fun progress entity =>
    tryEnqueue enqueueSyncJob (scheduledParams tenantCode sourceType entity) progress) progress

def handleByTenant (tenantCode : String) (groups roles : Option (List DirtyEntity))
    (state : SweepState σ ε) : Nat × SweepState σ ε :=
  enqueueAll enqueueSyncJob tenantCode .ROLE (roles.getD [])
    (enqueueAll enqueueSyncJob tenantCode .USER_GROUP (groups.getD []) (0, state))

/-- The body of the loop over the tenants. -/
def sweepTenant (dirtyGroups dirtyRoles : List DirtyEntity) (progress : Nat × SweepState σ ε)
    (tenantCode : String) : Nat × SweepState σ ε :=
  let (jobsEnqueued, state) := progress
  let tenantGroups := dirtyGroups.filter fun g => g.tenantCode = tenantCode
  let tenantRoles := dirtyRoles.filter fun r => r.tenantCode = tenantCode
  let (enqueued, state) :=
    handleByTenant enqueueSyncJob tenantCode (some tenantGroups) (some tenantRoles) state
  (jobsEnqueued + enqueued, state)

/-- The arguments are what the two repositories answer. -/
def handleCron (findDirtyUserGroups findDirtyRoles : Except ε (List DirtyEntity))
    (state : SweepState σ ε) : Except ε SweepSummary × SweepState σ ε :=
  match findDirtyUserGroups, findDirtyRoles with
  | .error error, _ => (.error error, state)
  | .ok _, .error error => (.error error, state)
  | .ok dirtyGroups, .ok dirtyRoles =>
    let tenantSet := setOf (dirtyGroups.map DirtyEntity.tenantCode ++
      dirtyRoles.map DirtyEntity.tenantCode)
    let (jobsEnqueued, state) :=
      tenantSet.foldl (sweepTenant enqueueSyncJob dirtyGroups dirtyRoles) (0, state)
    (.ok {
      tenantsScanned := tenantSet.length
      dirtyGroupsFound := dirtyGroups.length
      dirtyRolesFound := dirtyRoles.length
      jobsEnqueued := jobsEnqueued }, state)

-- ============================================================================
-- What the loops ask for
-- ============================================================================

/-- The calls are for the requests, one after another, and those that returned a job are
    counted. -/
def Asks (requests : List EnqueueParams) (progress progress' : Nat × SweepState σ ε) : Prop :=
  ∃ calls : List (Call ε), progress'.2.calls = progress.2.calls ++ calls ∧
    calls.map Call.params = requests ∧
    progress'.1 = progress.1 + calls.countP Call.returnedJob

theorem Asks.nil (progress : Nat × SweepState σ ε) : Asks [] progress progress :=
  ⟨[], (List.append_nil _).symm, rfl, rfl⟩

theorem Asks.trans {requests requests' : List EnqueueParams}
    {progress progress' progress'' : Nat × SweepState σ ε} (h : Asks requests progress progress')
    (h' : Asks requests' progress' progress'') :
    Asks (requests ++ requests') progress progress'' := by
  obtain ⟨calls, hcalls, hparams, hcount⟩ := h
  obtain ⟨calls', hcalls', hparams', hcount'⟩ := h'
  refine ⟨calls ++ calls', ?_, ?_, ?_⟩
  · rw [hcalls', hcalls, List.append_assoc]
  · rw [List.map_append, hparams, hparams']
  · rw [hcount', hcount, List.countP_append, Nat.add_assoc]

/-- A loop asks for what its rounds ask for. -/
theorem asks_foldl {α : Type} {body : Nat × SweepState σ ε → α → Nat × SweepState σ ε}
    {requests : α → List EnqueueParams}
    (h : ∀ progress a, Asks (requests a) progress (body progress a)) (list : List α)
    (progress : Nat × SweepState σ ε) :
    Asks (list.flatMap requests) progress (list.foldl body progress) := by
  induction list generalizing progress with
  | nil => exact .nil progress
  | cons a list ih =>
    rw [List.flatMap_cons, List.foldl_cons]
    exact (h progress a).trans (ih _)

/-- One call is made, whatever comes of it. -/
theorem asks_tryEnqueue (params : EnqueueParams) (progress : Nat × SweepState σ ε) :
    Asks [params] progress (tryEnqueue enqueueSyncJob params progress) := by
  obtain ⟨jobsEnqueued, state⟩ := progress
  rcases hcall : enqueueSyncJob params state.service with ⟨error | response, service⟩
  · refine ⟨[⟨params, .error error⟩], ?_, rfl, ?_⟩
    · simp only [tryEnqueue, hcall]
    · simp only [tryEnqueue, hcall]
      rfl
  · refine ⟨[⟨params, .ok response⟩], ?_, rfl, ?_⟩
    · simp only [tryEnqueue, hcall]
    · simp only [tryEnqueue, hcall]
      rcases hjob : response.jobId.isSome with _ | _
      · simp [Call.returnedJob, hjob]
      · simp [Call.returnedJob, hjob]

theorem asks_enqueueAll (tenantCode : String) (sourceType : SyncSourceType)
    (entities : List DirtyEntity) (progress : Nat × SweepState σ ε) :
    Asks (entities.map (scheduledParams tenantCode sourceType)) progress
      (enqueueAll enqueueSyncJob tenantCode sourceType entities progress) := by
  rw [List.map_eq_flatMap]
  exact asks_foldl (fun progress entity => asks_tryEnqueue enqueueSyncJob _ progress) entities progress

/-- The requests of an entity's own tenant. -/
def ownParams (sourceType : SyncSourceType) (entity : DirtyEntity) : EnqueueParams :=
  scheduledParams entity.tenantCode sourceType entity

/-- A tenant's round asks for the tenant's entities. -/
theorem asks_sweepTenant (dirtyGroups dirtyRoles : List DirtyEntity)
    (progress : Nat × SweepState σ ε) (tenantCode : String) :
    Asks
      ((dirtyGroups.filter fun g => g.tenantCode = tenantCode).map (ownParams .USER_GROUP) ++
        (dirtyRoles.filter fun r => r.tenantCode = tenantCode).map (ownParams .ROLE))
      progress (sweepTenant enqueueSyncJob dirtyGroups dirtyRoles progress tenantCode) := by
  have hown : ∀ (entities : List DirtyEntity) (sourceType : SyncSourceType),
      (entities.filter fun e => e.tenantCode = tenantCode).map (ownParams sourceType) =
        (entities.filter fun e => e.tenantCode = tenantCode).map
          (scheduledParams tenantCode sourceType) := by
    intro entities sourceType
    refine List.map_congr_left fun entity hentity => ?_
    have htenant := List.of_mem_filter hentity
    rw [ownParams, of_decide_eq_true htenant]
  rw [hown, hown]
  obtain ⟨jobsEnqueued, state⟩ := progress
  -- the tenant's own count starts at zero
  obtain ⟨calls, hcalls, hparams, hcount⟩ :=
    (asks_enqueueAll enqueueSyncJob tenantCode .USER_GROUP _ (0, state)).trans
      (asks_enqueueAll enqueueSyncJob tenantCode .ROLE _ _)
  refine ⟨calls, hcalls, hparams, ?_⟩
  show jobsEnqueued + _ = jobsEnqueued + _
  rw [Nat.zero_add] at hcount
  exact congrArg (jobsEnqueued + ·) hcount

/-- The set of the tenants, and what their rounds ask for. -/
def tenantSet (dirtyGroups dirtyRoles : List DirtyEntity) : List String :=
  setOf (dirtyGroups.map DirtyEntity.tenantCode ++ dirtyRoles.map DirtyEntity.tenantCode)

/-- The sweep asks for an entity of each list once, under its own tenant. -/
def ownRequests (dirtyGroups dirtyRoles : List DirtyEntity) : List EnqueueParams :=
  dirtyGroups.map (ownParams .USER_GROUP) ++ dirtyRoles.map (ownParams .ROLE)

omit enqueueSyncJob in
theorem perm_of_tenants (dirtyGroups dirtyRoles : List DirtyEntity) :
    ((tenantSet dirtyGroups dirtyRoles).flatMap fun tenantCode =>
      (dirtyGroups.filter fun g => g.tenantCode = tenantCode).map (ownParams .USER_GROUP) ++
        (dirtyRoles.filter fun r => r.tenantCode = tenantCode).map (ownParams .ROLE)).Perm
      (ownRequests dirtyGroups dirtyRoles) := by
  have hnodup : (tenantSet dirtyGroups dirtyRoles).Nodup := nodup_setOf _
  have hgroups : ∀ g ∈ dirtyGroups, g.tenantCode ∈ tenantSet dirtyGroups dirtyRoles :=
    fun g hg => mem_setOf.mpr (List.mem_append_left _ (List.mem_map_of_mem hg))
  have hroles : ∀ r ∈ dirtyRoles, r.tenantCode ∈ tenantSet dirtyGroups dirtyRoles :=
    fun r hr => mem_setOf.mpr (List.mem_append_right _ (List.mem_map_of_mem hr))
  refine (List.flatMap_append_perm _ _ _).symm.trans ?_
  rw [← List.map_flatMap, ← List.map_flatMap]
  exact ((flatMap_filter_perm hnodup hgroups).map _).append
    ((flatMap_filter_perm hnodup hroles).map _)

theorem handleCron_asks (dirtyGroups dirtyRoles : List DirtyEntity) (service : σ) :
    ∃ summary state requests,
      handleCron enqueueSyncJob (.ok dirtyGroups) (.ok dirtyRoles) ⟨service, []⟩ =
        (.ok summary, state) ∧
      requests.Perm (ownRequests dirtyGroups dirtyRoles) ∧
      Asks requests (0, ⟨service, []⟩) (summary.jobsEnqueued, state) := by
  have hloop := asks_foldl (asks_sweepTenant enqueueSyncJob dirtyGroups dirtyRoles)
    (tenantSet dirtyGroups dirtyRoles) (0, ⟨service, []⟩)
  exact ⟨_, _, _, rfl, perm_of_tenants dirtyGroups dirtyRoles, hloop⟩

/-- Whatever `enqueueSyncJob` does, the sweep does not throw, it calls it exactly once for
    each dirty group and role under the entity's own tenant, and it counts the calls that
    returned a job. -/
theorem handleCron_isolates (dirtyGroups dirtyRoles : List DirtyEntity) (service : σ) :
    ∃ summary state,
      handleCron enqueueSyncJob (.ok dirtyGroups) (.ok dirtyRoles) ⟨service, []⟩ =
        (.ok summary, state) ∧
      (state.calls.map Call.params).Perm (ownRequests dirtyGroups dirtyRoles) ∧
      summary.jobsEnqueued = state.calls.countP Call.returnedJob := by
  obtain ⟨summary, state, requests, hrun, hperm, calls, hcalls, hparams, hcount⟩ :=
    handleCron_asks enqueueSyncJob dirtyGroups dirtyRoles service
  rw [List.nil_append] at hcalls
  rw [Nat.zero_add] at hcount
  refine ⟨summary, state, hrun, ?_, hcalls ▸ hcount⟩
  rw [hcalls, hparams]
  exact hperm

end Scanner

-- ============================================================================
-- The sweep of a store
-- ============================================================================

def findDirtyUserGroups (db : Database) : List DirtyEntity :=
  (db.groups.rows.filter fun g => g.version ≠ g.projectionVersion).map fun g =>
    ⟨g.tenantCode, g.id, g.version⟩

def findDirtyRoles (db : Database) : List DirtyEntity :=
  (db.roles.rows.filter fun r => r.version ≠ r.projectionVersion).map fun r =>
    ⟨r.tenantCode, r.id, r.version⟩

/-- The request says which entity it is about. -/
theorem ownParams_injective (sourceType : SyncSourceType) :
    Function.Injective (ownParams sourceType) := by
  rintro ⟨tenantCode, id, version⟩ ⟨tenantCode', id', version'⟩ h
  simp only [ownParams, scheduledParams, EnqueueParams.mk.injEq, SourceRef.mk.injEq,
    Option.some.injEq] at h
  obtain ⟨rfl, ⟨-, rfl⟩, rfl, -⟩ := h
  rfl

theorem nodup_ownRequests (db : Database) :
    (ownRequests (findDirtyUserGroups db) (findDirtyRoles db)).Nodup := by
  have hgroups : (findDirtyUserGroups db).Nodup :=
    List.Nodup.of_map DirtyEntity.id (by
      rw [findDirtyUserGroups, List.map_map]
      exact db.groups.nodup.sublist (List.filter_sublist.map _))
  have hroles : (findDirtyRoles db).Nodup :=
    List.Nodup.of_map DirtyEntity.id (by
      rw [findDirtyRoles, List.map_map]
      exact db.roles.nodup.sublist (List.filter_sublist.map _))
  refine List.nodup_append'.mpr ⟨hgroups.map (ownParams_injective _),
    hroles.map (ownParams_injective _), fun params hgroup hrole => ?_⟩
  obtain ⟨g, -, rfl⟩ := List.mem_map.mp hgroup
  obtain ⟨r, -, hsame⟩ := List.mem_map.mp hrole
  have hkind := congrArg (fun params => params.source.sourceType) hsame
  cases hkind

/-- With the service as it is, the sweep of any store asks once for each of its dirty rows. -/
theorem handleCron_store (ctx : Context) (w : World Store Failure) :
    ∃ summary state,
      handleCron (AuthorizationSyncService.enqueueSyncJob ctx)
          (.ok (findDirtyUserGroups w.state.db)) (.ok (findDirtyRoles w.state.db)) ⟨w, []⟩ =
        (.ok summary, state) ∧
      (state.calls.map Call.params).Nodup ∧
      ∀ params, params ∈ state.calls.map Call.params ↔
        params ∈ ownRequests (findDirtyUserGroups w.state.db) (findDirtyRoles w.state.db) := by
  obtain ⟨summary, state, requests, hrun, hperm, calls, hcalls, hparams, -⟩ :=
    handleCron_asks (AuthorizationSyncService.enqueueSyncJob ctx)
      (findDirtyUserGroups w.state.db) (findDirtyRoles w.state.db) w
  rw [List.nil_append] at hcalls
  refine ⟨summary, state, hrun, ?_, fun params => ?_⟩
  · rw [hcalls, hparams]
    exact hperm.nodup_iff.mpr (nodup_ownRequests w.state.db)
  · rw [hcalls, hparams]
    exact hperm.mem_iff

end AccessService.Authorization.ScheduledReconciliationScanner
