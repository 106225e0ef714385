/-
  AccessService.Authorization.TruthfulStatus

  What a reported status says about all jobs of a source.  Several jobs of a source may be
  in flight, for different versions, and the status looks at the one that was created last:
  a job that is older and still in flight is not seen behind it.  The summary of a tenant
  counts what is reported of each entity.
-/

import AccessService.Authorization.SyncStatusProjection

namespace AccessService.Authorization

open AccessService.Lib AccessService.Pg AccessService.Persistence AccessService.UserGroups
open AuthorizationSyncJobRepository AuthorizationSyncService

namespace SyncStatusProjectionService

/-- The status is true of the source's jobs and versions. -/
structure Truthful (jobs : List JobRecord) (versions : SourceVersions)
    (status : SyncComputedStatus) : Prop where
  completed : status = .COMPLETED →
    (∀ job ∈ jobs, job.status.inFlight = false) ∧
      versions.sourceVersion ≤ versions.projectionVersion
  processing : status = .PROCESSING ↔ ∃ job ∈ jobs, job.status = .PROCESSING
  failed : status = .FAILED →
    versions.projectionVersion < versions.sourceVersion ∧
      ∀ job ∈ jobs, job.status.inFlight = false

/-- The job that was created last is PROCESSING; or no job is, and either no job is PENDING,
    or the last one is, or it is COMPLETED and the source has a newer version. -/
def LatestDecides (jobs : List JobRecord) (versions : SourceVersions)
    (latestJob : Option JobRecord) : Prop :=
  (∃ latest ∈ latestJob, latest.status = .PROCESSING) ∨
    ((∀ job ∈ jobs, job.status ≠ .PROCESSING) ∧
      ((∀ job ∈ jobs, job.status ≠ .PENDING) ∨ (∃ latest ∈ latestJob, latest.status = .PENDING) ∨
        ((∃ latest ∈ latestJob, latest.status = .COMPLETED) ∧
          versions.projectionVersion < versions.sourceVersion)))

-- ============================================================================
-- The status of one source
-- ============================================================================

section Status

variable {jobs : List JobRecord} {versions : SourceVersions} {latest : JobRecord}

theorem inFlight_eq_false {status : SyncJobStatus} :
    status.inFlight = false ↔ status ≠ .PROCESSING ∧ status ≠ .PENDING := by
  cases status <;> decide

theorem forall_inFlight_eq_false :
    (∀ job ∈ jobs, job.status.inFlight = false) ↔
      (∀ job ∈ jobs, job.status ≠ .PROCESSING) ∧ ∀ job ∈ jobs, job.status ≠ .PENDING := by
  simp only [inFlight_eq_false]
  exact ⟨fun h => ⟨fun job hjob => (h job hjob).1, fun job hjob => (h job hjob).2⟩,
    fun h job hjob => ⟨h.1 job hjob, h.2 job hjob⟩⟩

theorem versionStatus_status : (versionStatus versions).status =
    if versions.projectionVersion < versions.sourceVersion then .PENDING else .COMPLETED := by
  unfold versionStatus
  split
  · rfl
  · rfl

/-- PENDING is true of a source unless a job is PROCESSING. -/
theorem truthful_pending :
    Truthful jobs versions .PENDING ↔ ∀ job ∈ jobs, job.status ≠ .PROCESSING := by
  constructor
  · exact fun h job hjob hprocessing => nomatch h.processing.mpr ⟨job, hjob, hprocessing⟩
  · intro h
    refine ⟨nofun, ⟨nofun, ?_⟩, nofun⟩
    rintro ⟨job, hjob, hprocessing⟩
    exact absurd hprocessing (h job hjob)

theorem truthful_completed (h : versions.sourceVersion ≤ versions.projectionVersion) :
    Truthful jobs versions .COMPLETED ↔ ∀ job ∈ jobs, job.status.inFlight = false := by
  refine ⟨fun htruthful => (htruthful.completed rfl).1, fun hdone => ?_⟩
  refine ⟨fun _ => ⟨hdone, h⟩, ⟨nofun, ?_⟩, nofun⟩
  rintro ⟨job, hjob, hprocessing⟩
  exact absurd hprocessing (inFlight_eq_false.mp (hdone job hjob)).1

theorem truthful_failed (h : versions.projectionVersion < versions.sourceVersion) :
    Truthful jobs versions .FAILED ↔ ∀ job ∈ jobs, job.status.inFlight = false := by
  refine ⟨fun htruthful => (htruthful.failed rfl).2, fun hdone => ?_⟩
  refine ⟨nofun, ⟨nofun, ?_⟩, fun _ => ⟨h, hdone⟩⟩
  rintro ⟨job, hjob, hprocessing⟩
  exact absurd hprocessing (inFlight_eq_false.mp (hdone job hjob)).1

theorem truthful_processing (hmem : latest ∈ jobs) (h : latest.status = .PROCESSING) :
    Truthful jobs versions .PROCESSING :=
  ⟨nofun, iff_of_true rfl ⟨latest, hmem, h⟩, nofun⟩

/-- Without a job that decides, the versions do. -/
theorem truthful_versionStatus :
    Truthful jobs versions (versionStatus versions).status ↔
      (∀ job ∈ jobs, job.status ≠ .PROCESSING) ∧
        ((∀ job ∈ jobs, job.status ≠ .PENDING) ∨
          versions.projectionVersion < versions.sourceVersion) := by
  rw [versionStatus_status]
  split
  next h => rw [truthful_pending, and_iff_left (.inr h)]
  next h =>
    rw [truthful_completed (Nat.le_of_not_lt h), forall_inFlight_eq_false, or_iff_left h]

theorem latestDecides_some :
    LatestDecides jobs versions (some latest) ↔ latest.status = .PROCESSING ∨
      ((∀ job ∈ jobs, job.status ≠ .PROCESSING) ∧
        ((∀ job ∈ jobs, job.status ≠ .PENDING) ∨ latest.status = .PENDING ∨
          (latest.status = .COMPLETED ∧
            versions.projectionVersion < versions.sourceVersion))) := by
  simp only [LatestDecides, Option.mem_some_iff, exists_eq_left']

/-- The status that the last job gives is true exactly where that job decides. -/
theorem truthful_some (hmem : latest ∈ jobs) :
    Truthful jobs versions (computeStatus versions (some latest)).status ↔
      LatestDecides jobs versions (some latest) := by
  rw [latestDecides_some]
  cases hstatus : latest.status with
  | PROCESSING =>
    simp only [computeStatus, hstatus]
    exact iff_of_true (truthful_processing hmem hstatus) (.inl trivial)
  | PENDING =>
    simp only [computeStatus, hstatus, truthful_pending, reduceCtorEq, false_or, true_or, or_true,
      and_true]
  | COMPLETED =>
    simp only [computeStatus, hstatus, truthful_versionStatus, reduceCtorEq, false_or, true_and]
  | FAILED =>
    simp only [computeStatus, hstatus, reduceCtorEq, false_or, false_and, or_false]
    split
    next h => rw [truthful_failed h, forall_inFlight_eq_false]
    next h => rw [truthful_versionStatus, or_iff_left h]

theorem truthful_none : Truthful [] versions (computeStatus versions none).status := by
  show Truthful [] versions (versionStatus versions).status
  rw [truthful_versionStatus]
  exact ⟨fun _ h => absurd h List.not_mem_nil, .inl fun _ h => absurd h List.not_mem_nil⟩

theorem latestDecides_none : LatestDecides [] versions none :=
  .inr ⟨fun _ h => absurd h List.not_mem_nil, .inl fun _ h => absurd h List.not_mem_nil⟩

end Status

section Entity

variable {ctx : StatusContext} {source : SourceRef} {w w' : World StatusStore Failure}

theorem truthful_latestJob (s : StatusStore) (versions : SourceVersions) :
    Truthful (s.jobsOf ctx.tenantCode source) versions
        (computeStatus versions (latestJob ctx s source)).status ↔
      LatestDecides (s.jobsOf ctx.tenantCode source) versions (latestJob ctx s source) := by
  rcases hlatest : latestJob ctx s source with _ | latest
  · rw [ctx.first_none hlatest]
    exact iff_of_true truthful_none latestDecides_none
  · exact truthful_some (ctx.first_some hlatest).1

theorem validateAndResolveEntityVersions_ok {ctx : Context} {versions : SourceVersions}
    {w w' : World Store Failure}
    (h : validateAndResolveEntityVersions ctx source w = (.ok versions, w')) :
    versionsOf w.state.db ctx.tenantCode source = some versions ∧ w'.state = w.state := by
  cases htype : source.sourceType with
  | USER_GROUP =>
    simp only [validateAndResolveEntityVersions, htype] at h
    obtain ⟨group, w₁, hfind, hrest⟩ := Faulty.bind_ok.mp h
    obtain ⟨hgroup, hstate⟩ := (reads_readDb _).ok hfind
    cases group with
    | none => exact absurd hrest Faulty.throw_ok
    | some g =>
      obtain ⟨rfl, rfl⟩ := Faulty.pure_ok.mp hrest
      simp only [versionsOf, htype, ← hgroup]
      exact ⟨rfl, hstate⟩
  | ROLE =>
    simp only [validateAndResolveEntityVersions, htype] at h
    obtain ⟨role, w₁, hfind, hrest⟩ := Faulty.bind_ok.mp h
    obtain ⟨hrole, hstate⟩ := (reads_readDb _).ok hfind
    cases role with
    | none => exact absurd hrest Faulty.throw_ok
    | some r =>
      obtain ⟨rfl, rfl⟩ := Faulty.pure_ok.mp hrest
      simp only [versionsOf, htype, ← hrole]
      exact ⟨rfl, hstate⟩

theorem getEntitySyncStatus_ok {response : SyncStatusResponseDto}
    (h : getEntitySyncStatus ctx source w = (.ok response, w')) :
    ∃ versions, versionsOf w.state.base.db ctx.tenantCode source = some versions ∧
      response.toComputedStatus = computeStatus versions (latestJob ctx w.state source) := by
  simp only [getEntitySyncStatus, Faulty.bind_ok, Faulty.pure_ok] at h
  obtain ⟨versions, w₁, hresolve, latest, w₂, hlatest, completed, w₃, -, rfl, -⟩ := h
  obtain ⟨v, hversions, rfl⟩ := Faulty.zoom_ok.mp hresolve
  obtain ⟨hfound, hstate⟩ := validateAndResolveEntityVersions_ok hversions
  obtain ⟨rfl, -⟩ := Faulty.read_ok hlatest
  rw [hstate]
  exact ⟨versions, hfound, rfl⟩

end Entity

-- ============================================================================
-- The summary
-- ============================================================================

/-- What `getEntitySyncStatus` answers for a source, if nothing gets in its way. -/
def individualStatus (ctx : StatusContext) (s : StatusStore) (source : SourceRef) :
    Option SyncComputedStatus :=
  match (getEntitySyncStatus ctx source (.calm s)).1 with
  | .ok response => some response.status
  | .error _ => none

def Counters.of (c : Counters) : SyncComputedStatus → Nat
  | .COMPLETED => c.completed
  | .PENDING => c.pending
  | .PROCESSING => c.processing
  | .FAILED => c.failed

/-- The counters of a summary. -/
def summaryCounters (summary : SyncStatusSummaryResponseDto) : Counters :=
  ⟨summary.completed, summary.pending, summary.processing, summary.failed⟩

/-- The entities that the summary is about: a list that cannot be read counts as empty. -/
def summarized (ctx : StatusContext) (w : World StatusStore Failure) : List Entity :=
  (if Faulty.ThrowsAt w 0 then []
    else (w.state.base.db.activeGroups ctx.tenantCode).map groupEntity) ++
  if Faulty.ThrowsAt w 1 then [] else (tenantRoles w.state.base.db ctx.tenantCode).map roleEntity

/-- The counters add up to the number of entities, and each is the number of entities
    whose own status is that one. -/
structure CountsEach (ctx : StatusContext) (s : StatusStore) (entities : List Entity)
    (summary : SyncStatusSummaryResponseDto) : Prop where
  total : summary.totalEntities = entities.length
  sum : summary.completed + summary.pending + summary.processing + summary.failed =
    summary.totalEntities
  each : ∀ status, (summaryCounters summary).of status =
    entities.countP fun entity => individualStatus ctx s entity.source = some status

section Summary

variable {ctx : StatusContext} {w w' : World StatusStore Failure}

theorem Counters.count_of (c : Counters) (status status' : SyncComputedStatus) :
    (c.count status).of status' = c.of status' + if status = status' then 1 else 0 := by
  cases status <;> cases status' <;> rfl

/-- Each counter grows by the number of entities with its status. -/
theorem countAll_ok {entities : List Entity} {c c' : Counters}
    (h : countAll ctx entities c w = (.ok c', w')) :
    w'.state = w.state ∧ ∀ status, c'.of status = c.of status + entities.countP fun entity =>
      (computeStatus entity.versions (latestJob ctx w.state entity.source)).status = status := by
  induction entities generalizing c w with
  | nil =>
    obtain ⟨rfl, rfl⟩ := Faulty.pure_ok.mp h
    exact ⟨rfl, fun _ => rfl⟩
  | cons entity entities ih =>
    obtain ⟨latest, w₁, hlatest, hrest⟩ := Faulty.bind_ok.mp h
    obtain ⟨rfl, hstate⟩ := Faulty.read_ok hlatest
    obtain ⟨hstate', hcount⟩ := ih hrest
    rw [hstate] at hstate' hcount
    refine ⟨hstate', fun status => ?_⟩
    rw [hcount, Counters.count_of, List.countP_cons]
    simp only [decide_eq_true_eq]
    omega

/-- Every status is counted once. -/
theorem countP_status (status : Entity → SyncComputedStatus) (entities : List Entity) :
    (entities.countP fun e => status e = .COMPLETED) + (entities.countP fun e =>
      status e = .PENDING) + (entities.countP fun e => status e = .PROCESSING) +
      (entities.countP fun e => status e = .FAILED) = entities.length := by
  induction entities with
  | nil => rfl
  | cons entity entities ih =>
    simp only [List.countP_cons, List.length_cons, ← ih]
    cases status entity <;> simp <;> omega

theorem validateAndResolveEntityVersions_calm {ctx : Context} {source : SourceRef} {s : Store}
    {versions : SourceVersions} (h : versionsOf s.db ctx.tenantCode source = some versions) :
    validateAndResolveEntityVersions ctx source (.calm s) = (.ok versions, .calm s) := by
  cases htype : source.sourceType with
  | USER_GROUP =>
    simp only [versionsOf, htype] at h
    obtain ⟨g, hg, rfl⟩ := Option.map_eq_some_iff.mp h
    have hfind : UserGroupRepository.findById ctx source.sourceId (.calm s) =
        (.ok (some g), .calm s) := by
      rw [← hg]
      rfl
    simp only [validateAndResolveEntityVersions, htype]
    exact Faulty.bind_runs hfind
  | ROLE =>
    simp only [versionsOf, htype] at h
    obtain ⟨r, hr, rfl⟩ := Option.map_eq_some_iff.mp h
    have hfind : RoleRepository.findById ctx source.sourceId (.calm s) =
        (.ok (some r), .calm s) := by
      rw [← hr]
      rfl
    simp only [validateAndResolveEntityVersions, htype]
    exact Faulty.bind_runs hfind

/-- An entity's own status, for one that is found with its versions. -/
theorem individualStatus_eq {s : StatusStore} {entity : Entity}
    (hfound : versionsOf s.base.db ctx.tenantCode entity.source = some entity.versions) :
    individualStatus ctx s entity.source =
      some (computeStatus entity.versions (latestJob ctx s entity.source)).status := by
  have hresolve : onTables (validateAndResolveEntityVersions ctx.toContext entity.source)
      (.calm s) = (.ok entity.versions, .calm s) :=
    Faulty.zoom_ok.mpr ⟨_, validateAndResolveEntityVersions_calm hfound, rfl⟩
  have hrun : getEntitySyncStatus ctx entity.source (.calm s) = _ := Faulty.bind_runs hresolve
  rw [individualStatus, hrun]
  rfl

/-- What is read of the tables, or nothing. -/
theorem readOrEmpty_eq {α : Type} (f : Database → List α) (w : World StatusStore Failure) :
    Faulty.tryCatch (onTables (readDb f)) (fun _ => pure []) w =
      (.ok (if Faulty.ThrowsAt w 0 then [] else f w.state.base.db),
        Faulty.afterCall w w.state) := by
  obtain ⟨s, faults⟩ := w
  rcases faults with _ | ⟨_ | e, faults⟩
  · rw [if_neg fun ⟨_, h⟩ => nomatch h]
    rfl
  · rw [if_neg fun ⟨_, h⟩ => nomatch h]
    rfl
  · rw [if_pos ⟨e, rfl⟩]
    rfl

/-- The entities of a summary are found with their versions. -/
theorem summarized_found {entity : Entity} (h : entity ∈ summarized ctx w) :
    versionsOf w.state.base.db ctx.tenantCode entity.source = some entity.versions := by
  rcases List.mem_append.mp h with hgroup | hrole
  · split at hgroup
    · exact absurd hgroup List.not_mem_nil
    · obtain ⟨g, hg, rfl⟩ := List.mem_map.mp hgroup
      obtain ⟨hmem, htenant, -⟩ := Database.mem_activeGroups.mp hg
      have hfound := Database.group_eq_some.mpr ⟨hmem, htenant, rfl⟩
      simp only [versionsOf, groupEntity, hfound, Option.map_some]
  · split at hrole
    · exact absurd hrole List.not_mem_nil
    · obtain ⟨r, hr, rfl⟩ := List.mem_map.mp hrole
      rw [tenantRoles, List.mem_filter, decide_eq_true_eq] at hr
      have hfound : w.state.base.db.role ctx.tenantCode r.id = some r := by
        refine Keyed.find?_unique hr.1 (by simp [hr.2]) fun other hother => ?_
        simp only [Bool.and_eq_true, decide_eq_true_eq] at hother
        exact hother.2
      simp only [versionsOf, roleEntity, hfound, Option.map_some]

theorem getTenantSummary_ok {summary : SyncStatusSummaryResponseDto}
    (h : getTenantSummary ctx w = (.ok summary, w')) :
    CountsEach ctx w.state (summarized ctx w) summary := by
  simp only [getTenantSummary, Faulty.bind_ok, Faulty.pure_ok] at h
  obtain ⟨groups, w₁, hgroups, roles, w₂, hroles, counters, w₃, hcount, now, w₄, -, rfl, -⟩ := h
  obtain ⟨hgroupsEq, rfl⟩ := Prod.mk.inj ((readOrEmpty_eq _ w).symm.trans hgroups)
  obtain ⟨hrolesEq, rfl⟩ := Prod.mk.inj ((readOrEmpty_eq _ _).symm.trans hroles)
  have hentities : groups.map groupEntity ++ roles.map roleEntity = summarized ctx w := by
    rw [← Except.ok.inj hgroupsEq, ← Except.ok.inj hrolesEq, summarized]
    simp only [Faulty.throwsAt_afterCall, apply_ite (List.map groupEntity),
      apply_ite (List.map roleEntity), List.map_nil]
    rfl
  rw [hentities] at hcount ⊢
  obtain ⟨-, heach⟩ := countAll_ok hcount
  have hcounter : ∀ status, counters.of status =
      (summarized ctx w).countP fun entity =>
        (computeStatus entity.versions (latestJob ctx w.state entity.source)).status = status := by
    intro status
    rw [heach]
    cases status <;> exact Nat.zero_add _
  refine ⟨rfl, ?_, fun status => ?_⟩
  · show counters.of .COMPLETED + counters.of .PENDING + counters.of .PROCESSING +
      counters.of .FAILED = _
    simp only [hcounter]
    exact countP_status _ _
  · show counters.of status = _
    rw [hcounter]
    refine List.countP_congr fun entity hmem => ?_
    rw [individualStatus_eq (summarized_found hmem)]
    simp

end Summary

/-- What is reported of a source is true of all its jobs exactly where the job that was
    created last decides; a summary always counts what is reported of each entity. -/
theorem sync_status_truthful_iff {ctx : StatusContext} {source : SourceRef}
    {w w' v v' : World StatusStore Failure} {response : SyncStatusResponseDto}
    {summary : SyncStatusSummaryResponseDto}
    (hstatus : getEntitySyncStatus ctx source w = (.ok response, w'))
    (hsummary : getTenantSummary ctx v = (.ok summary, v')) :
    ∃ versions, versionsOf w.state.base.db ctx.tenantCode source = some versions ∧
      ((Truthful (w.state.jobsOf ctx.tenantCode source) versions response.status ∧
          CountsEach ctx v.state (summarized ctx v) summary) ↔
        LatestDecides (w.state.jobsOf ctx.tenantCode source) versions
          (latestJob ctx w.state source)) := by
  obtain ⟨versions, hversions, hcomputed⟩ := getEntitySyncStatus_ok hstatus
  refine ⟨versions, hversions, ?_⟩
  rw [and_iff_left (getTenantSummary_ok hsummary), hcomputed]
  exact truthful_latestJob w.state versions

-- ============================================================================
-- A job that was overtaken
-- ============================================================================

/-- Among rows that are alike, the first. -/
def acmeStatus : StatusContext where
  toContext := acme
  first columns rows := rows.argmax columns
  first_some h := ⟨List.argmax_mem h, fun _ hmem => List.not_lt_of_mem_argmax hmem h⟩
  first_none h := List.argmax_eq_none.mp h

def groupSource : SourceRef := ⟨.USER_GROUP, sampleGroupId⟩

def versionJob (sourceVersion : Nat) (priority : SyncJobPriority) (status : SyncJobStatus) :
    AuthorizationSyncJob where
  tenantCode := "acme"
  source := groupSource
  sourceVersion := sourceVersion
  triggerType := .MANUAL
  priority := priority
  status := status
  createdBy := none
  createdAt := sourceVersion
  updatedAt := sourceVersion

/-- The group has version 2 and its projection too. -/
def statusStore (jobs : JobTable) : StatusStore where
  base := {
    db := { sampleDatabase true .empty with
      groups := ⟨[{ sampleUserGroup with version := 2, projectionVersion := 2 }],
        List.nodup_singleton _⟩
      jobs := jobs } }

/-- The URGENT job for version 2 has been claimed before the job for version 1. -/
def overtaken : StatusStore :=
  statusStore [versionJob 1 .STANDARD .PENDING, versionJob 2 .URGENT .COMPLETED]

theorem sync_status_truthful_sample :
    ∃ response summary w' v',
      getEntitySyncStatus acmeStatus groupSource
        (.calm (statusStore [versionJob 2 .URGENT .COMPLETED])) = (.ok response, w') ∧
      getTenantSummary acmeStatus (.calm (statusStore [versionJob 2 .URGENT .COMPLETED])) =
        (.ok summary, v') ∧
      Truthful ((statusStore [versionJob 2 .URGENT .COMPLETED]).jobsOf "acme" groupSource) ⟨2, 2⟩
        response.status := by
  have hstatus : (getEntitySyncStatus acmeStatus groupSource
      (.calm (statusStore [versionJob 2 .URGENT .COMPLETED]))).1 =
        .ok ⟨⟨.COMPLETED, .NONE, none⟩, groupSource, none, 0⟩ := by
    decide +kernel
  have hsummary : (getTenantSummary acmeStatus
      (.calm (statusStore [versionJob 2 .URGENT .COMPLETED]))).1 =
        .ok ⟨"acme", 2, 1, 1, 0, 0, 0⟩ := by
    decide +kernel
  refine ⟨_, _, _, _, Faulty.run_eq hstatus, Faulty.run_eq hsummary, ?_⟩
  obtain ⟨versions, hversions, hiff⟩ :=
    sync_status_truthful_iff (Faulty.run_eq hstatus) (Faulty.run_eq hsummary)
  obtain rfl : (⟨2, 2⟩ : SourceVersions) = versions := Option.some.inj hversions
  refine (hiff.mpr (.inr ⟨?_, .inl ?_⟩)).1
  · decide +kernel
  · decide +kernel

/-- The group is reported COMPLETED while its job for version 1 is PENDING. -/
theorem not_sync_status_truthful :
    ∃ response w', JobTable.InFlightUnique overtaken.base.db.jobs ∧
      getEntitySyncStatus acmeStatus groupSource (.calm overtaken) = (.ok response, w') ∧
      response.status = .COMPLETED ∧
      ¬Truthful (overtaken.jobsOf "acme" groupSource) ⟨2, 2⟩ response.status := by
  have hstatus : (getEntitySyncStatus acmeStatus groupSource (.calm overtaken)).1 =
      .ok ⟨⟨.COMPLETED, .NONE, none⟩, groupSource, none, 0⟩ := by
    decide +kernel
  refine ⟨_, _, ?_, Faulty.run_eq hstatus, rfl, fun htruthful => ?_⟩
  · have hnil : JobTable.InFlightUnique [] := fun i j a b hi => nomatch hi
    have hfirst : JobTable.insert [] (versionJob 1 .STANDARD .PENDING) =
        some [versionJob 1 .STANDARD .PENDING] := by
      decide +kernel
    have hsecond : JobTable.insert [versionJob 1 .STANDARD .PENDING]
        (versionJob 2 .URGENT .COMPLETED) = some overtaken.base.db.jobs := by
      decide +kernel
    exact JobTable.insert_unique hsecond (JobTable.insert_unique hfirst hnil)
  · have hpending : ¬∀ job ∈ overtaken.jobsOf "acme" groupSource, job.status.inFlight = false := by
      decide +kernel
    exact hpending (htruthful.completed rfl).1

end SyncStatusProjectionService

end AccessService.Authorization
