/-
  AccessService.ImpactAnalysis.FullReconciliation

  The sources are what the worker makes of the tables: once a job has completed for each
  group of the tenant that has a rule, a user is stored as a member of just the groups whose
  population the user is in, and what the memberships grant is what these groups give.
-/

import AccessService.Authorization.MembershipPaths
import AccessService.ImpactAnalysis.AccessSources
import AccessService.Lib.Transition

namespace AccessService.ImpactAnalysis

open AccessService.Authorization AccessService.Authorization.AuthorizationReconciliationWorker
open AccessService.Lib AccessService.Lib.Transition AccessService.Pg AccessService.Persistence
open AccessService.UserGroups AccessService.UserGroups.UserGroupMatchingEngine

-- ============================================================================
-- What a job leaves alone
-- ============================================================================

/-- The group without what only a reconciliation writes. -/
def unprojected (g : UserGroup) : UserGroup := { g with projectionVersion := 0 }

/-- What populations and grants are worked out from, apart from the memberships. -/
def configuration (s : Store) :
    Keyed Employee.EmployeeReference Employee.EmployeeReference.id × List UserGroup ×
      Keyed UserGroupRole id :=
  (s.db.employees, s.db.groups.rows.map unprojected, s.db.groupRoles)

variable {ctx : WorkerContext} {id : JobId} {job : AuthorizationSyncJob}
  {w w' : World Store Failure} {u : Unit}

theorem configuration_of_basis {s s' : Store} (h : s'.basis = s.basis) :
    configuration s' = configuration s :=
  congrArg (fun basis => (basis.2.1, basis.2.2.1.rows.map unprojected, basis.2.2.2.2.1)) h

theorem updateProjectionVersion_configuration {ctx : Context} {groupId : Uuid} {version : Nat}
    (h : UserGroupRepository.updateProjectionVersion ctx groupId version w = (.ok u, w')) :
    configuration w'.state = configuration w.state ∧
      w'.state.db.memberships = w.state.db.memberships := by
  have hsame : unprojected ∘
      UserGroupRepository.withProjectionVersion ctx.tenantCode groupId version = unprojected := by
    funext g
    simp only [Function.comp, UserGroupRepository.withProjectionVersion]
    split <;> rfl
  rw [writeDb_ok h]
  refine ⟨?_, rfl⟩
  show (_, (w.state.db.groups.rows.map _).map unprojected, _) = _
  rw [List.map_map, hsame]
  rfl

theorem reconcileGroupPopulation_configuration {ctx : Context} {groupId : Uuid}
    {matched : List Uuid} {version : Nat} {result : GroupPopulationReconciliationResult}
    (h : MembershipReconciler.reconcileGroupPopulation ctx groupId matched version w =
      (.ok result, w')) : configuration w'.state = configuration w.state := by
  obtain ⟨w₁, ⟨table, hnow, -⟩, ⟨-, hstate⟩ | ⟨-, w₂, u, hloop, hupdate⟩⟩ :=
    MembershipReconciler.reconcileGroupPopulation_ok h
  · rw [hstate, hnow]
    rfl
  · have hbasis := (Faulty.leaves_forEach
      (MembershipReconciler.reconcileAffected_leaves ctx) _).ok hloop
    rw [(updateProjectionVersion_configuration hupdate).1, configuration_of_basis hbasis, hnow]
    rfl

theorem finalizeJob_configuration {processed : Nat} (htype : job.source.sourceType = .USER_GROUP)
    (h : finalizeJob ctx id job processed w = (.ok u, w')) :
    configuration w'.state = configuration w.state ∧
      w'.state.db.memberships = w.state.db.memberships := by
  rw [finalizeJob, runInTransaction, Faulty.transaction_ok] at h
  simp only [Faulty.bind_ok, advanceProjection, htype] at h
  obtain ⟨u₁, w₁, hadvance, u₂, w₂, hcompleted, hevent⟩ := h
  obtain ⟨hconfiguration, hmemberships⟩ := updateProjectionVersion_configuration hadvance
  have hbasis : w'.state.basis = w₁.state.basis := by
    rw [← (update_leaves id _).ok hcompleted, writeDb_ok hevent]
    rfl
  exact ⟨(configuration_of_basis hbasis).trans hconfiguration,
    (congrArg (fun basis => basis.2.2.2.2.2) hbasis).trans hmemberships⟩

-- ============================================================================
-- A completed job
-- ============================================================================

/-- The group's rule, if it is one of the tenant that has one. -/
def ruleOf (db : Database) (tenantCode : String) (groupId : Uuid) : Option MatchingRule :=
  (db.group tenantCode groupId).bind UserGroup.matchingRule

/-- The memberships after a job of the group. -/
def MembershipsAfter (ctx : WorkerContext) (job : AuthorizationSyncJob) (db : Database)
    (m : UserGroupMembership) : Prop :=
  match ruleOf db ctx.tenantCode job.source.sourceId with
  | some rule => MembershipReconciler.GroupMemberships db ctx.tenantCode job.source.sourceId
      (db.matchedEmployeeIds ctx.columns (buildMatchingQuery job.tenantCode rule)) m
  | none => m ∈ db.memberships.rows

theorem executeJob_configuration (htype : job.source.sourceType = .USER_GROUP)
    (hrun : executeJob ctx id job w = (.ok u, w')) :
    configuration w'.state = configuration w.state ∧
      ∀ m, m ∈ w'.state.db.memberships.rows ↔ MembershipsAfter ctx job w.state.db m := by
  simp only [executeJob, Faulty.bind_ok] at hrun
  obtain ⟨total, w₁, hprepare, processed, w₂, hbatches, hfinal⟩ := hrun
  have hloop := (processBatches_leaves ctx id job total total 0).ok hbatches
  obtain ⟨hconfiguration, hmemberships⟩ := finalizeJob_configuration htype hfinal
  rw [hconfiguration, configuration_of_basis hloop, hmemberships,
    show w₂.state.db.memberships = w₁.state.db.memberships from
      congrArg (fun basis => basis.2.2.2.2.2) hloop]
  obtain ⟨hnot, hbasis⟩ | ⟨g, rule, w₀, result, -, hg, hrule, hbasis, hpopulation⟩ :=
    prepareJob_cases hprepare
  · refine ⟨configuration_of_basis hbasis, fun m => ?_⟩
    have hnone : ruleOf w.state.db ctx.tenantCode job.source.sourceId = none := by
      rw [Option.eq_none_iff_forall_ne_some]
      intro rule hrule
      obtain ⟨g, hg, hgrule⟩ := Option.bind_eq_some_iff.mp hrule
      exact hnot ⟨htype, g, rule, hg, hgrule⟩
    rw [MembershipsAfter, hnone, show w₁.state.db.memberships = w.state.db.memberships from
      congrArg (fun basis => basis.2.2.2.2.2) hbasis]
  · have hsome : ruleOf w.state.db ctx.tenantCode job.source.sourceId = some rule := by
      rw [ruleOf, hg, Option.bind_some, hrule]
    refine ⟨?_, fun m => ?_⟩
    · rw [reconcileGroupPopulation_configuration hpopulation, configuration_of_basis hbasis]
    · rw [MembershipReconciler.reconcileGroupPopulation_memberships hpopulation, MembershipsAfter,
        hsome]
      unfold MembershipReconciler.GroupMemberships
      rw [show w₀.state.db.memberships = w.state.db.memberships from
        congrArg (fun basis => basis.2.2.2.2.2) hbasis]

-- ============================================================================
-- A job for each group
-- ============================================================================

/-- A completed job, with what its calls run into. -/
structure CompletedJob where
  id : JobId
  job : AuthorizationSyncJob
  faults : List (Option Failure) := []

/-- Jobs one after another, each of which completes. -/
def reconciliations (ctx : WorkerContext) : System Store CompletedJob where
  init _ := True
  step s x :=
    match executeJob ctx x.id x.job ⟨s, x.faults⟩ with
    | (.ok _, w) => some w.state
    | (.error _, _) => none

/-- The job is about a group of the worker's tenant. -/
structure IsGroupJob (ctx : WorkerContext) (x : CompletedJob) : Prop where
  type : x.job.source.sourceType = .USER_GROUP
  tenant : x.job.tenantCode = ctx.tenantCode

section Runs

variable {db : Database} {g : UserGroup} {s t : Store} {x : CompletedJob}
  {jobs : List CompletedJob}

/-- The stored members of the group are its population in the tables at the start. -/
def Settled (ctx : WorkerContext) (db : Database) (g : UserGroup) (s : Store) : Prop :=
  ∀ userId, ⟨ctx.tenantCode, g.id, userId⟩ ∈ s.db.memberships.rows ↔
    userId ∈ population ctx.columns db g

/-- The group as it is now. -/
theorem exists_group (hsame : configuration t = configuration s) (hg : g ∈ s.db.groups.rows) :
    ∃ version, { g with projectionVersion := version } ∈ t.db.groups.rows := by
  have hrows : t.db.groups.rows.map unprojected = s.db.groups.rows.map unprojected :=
    congrArg (fun c => c.2.1) hsame
  have hmem : unprojected g ∈ t.db.groups.rows.map unprojected :=
    hrows ▸ List.mem_map_of_mem hg
  obtain ⟨g', hg', hunprojected⟩ := List.mem_map.mp hmem
  have hsame' : g' = { g with projectionVersion := g'.projectionVersion } :=
    congrArg (fun x : UserGroup => { x with projectionVersion := g'.projectionVersion })
      hunprojected
  exact ⟨g'.projectionVersion, hsame' ▸ hg'⟩

theorem ruleOf_eq (hsame : configuration t = configuration s) (hg : g ∈ s.db.groups.rows)
    (htenant : g.tenantCode = ctx.tenantCode) :
    ruleOf t.db ctx.tenantCode g.id = g.matchingRule := by
  obtain ⟨version, hg'⟩ := exists_group hsame hg
  have hgroup : t.db.group ctx.tenantCode g.id = some { g with projectionVersion := version } :=
    Database.group_eq_some.mpr ⟨hg', htenant, rfl⟩
  rw [ruleOf, hgroup, Option.bind_some]

theorem reconciliation_ok (hjob : IsGroupJob ctx x)
    (h : (reconciliations ctx).step s x = some t) :
    configuration t = configuration s ∧
      ∀ m, m ∈ t.db.memberships.rows ↔ MembershipsAfter ctx x.job s.db m := by
  simp only [reconciliations] at h
  split at h
  next u w hrun =>
    obtain rfl := Option.some.inj h
    exact executeJob_configuration hjob.type hrun
  · cases h

theorem reconciliations_configuration (hjobs : ∀ x ∈ jobs, IsGroupJob ctx x)
    (h : (reconciliations ctx).execute s jobs = some t) : configuration t = configuration s := by
  induction jobs generalizing s with
  | nil =>
    obtain rfl := Option.some.inj h
    rfl
  | cons y jobs ih =>
    obtain ⟨s₁, hstep, hrest⟩ := System.execute_cons.mp h
    have hfirst := (reconciliation_ok (hjobs y List.mem_cons_self) hstep).1
    exact (ih (fun x hx => hjobs x (List.mem_cons_of_mem _ hx)) hrest).trans hfirst

/-- The job of a group settles it; other jobs do not touch its members. -/
theorem reconciliation_settles {s₀ : Store} (hsame : configuration s = configuration s₀)
    (hg : g ∈ s₀.db.groups.rows) (htenant : g.tenantCode = ctx.tenantCode)
    (hjob : IsGroupJob ctx x) (h : (reconciliations ctx).step s x = some t)
    (hstart : Settled ctx s₀.db g s ∨
      (g.matchingRule ≠ none ∧ x.job.source.sourceId = g.id)) : Settled ctx s₀.db g t := by
  obtain ⟨-, hmemberships⟩ := reconciliation_ok hjob h
  have hrule := ruleOf_eq hsame hg htenant
  have hmatched : ∀ rule, g.matchingRule = some rule → ∀ userId,
      userId ∈ s.db.matchedEmployeeIds ctx.columns (buildMatchingQuery x.job.tenantCode rule) ↔
        userId ∈ population ctx.columns s₀.db g := by
    intro rule hsome userId
    have hemployees : s.db.employees = s₀.db.employees := congrArg Prod.fst hsame
    rw [population, hsome, htenant, hjob.tenant, Database.matchedEmployeeIds, hemployees]
    rfl
  intro userId
  rw [hmemberships]
  by_cases hsource : x.job.source.sourceId = g.id
  · rw [MembershipsAfter, hsource, hrule]
    rcases hfound : g.matchingRule with _ | rule
    · exact hstart.resolve_right (fun hsome => hsome.1 hfound) userId
    · show MembershipReconciler.GroupMemberships _ _ _ _ _ ↔ _
      rw [MembershipReconciler.GroupMemberships, if_pos ⟨rfl, rfl⟩]
      exact hmatched rule hfound userId
  · have hsettled := hstart.resolve_right fun hsome => hsource hsome.2
    rw [MembershipsAfter]
    split
    · rw [MembershipReconciler.GroupMemberships, if_neg fun hkey => hsource hkey.2.symm]
      exact hsettled userId
    · exact hsettled userId

/-- The group is settled at the end of a run that starts with it settled, or that has a job
    of it. -/
theorem reconciliations_settle {s₀ : Store} (hsame : configuration s = configuration s₀)
    (hg : g ∈ s₀.db.groups.rows) (htenant : g.tenantCode = ctx.tenantCode)
    (hjobs : ∀ x ∈ jobs, IsGroupJob ctx x)
    (h : (reconciliations ctx).execute s jobs = some t)
    (hstart : Settled ctx s₀.db g s ∨
      (g.matchingRule ≠ none ∧ ∃ x ∈ jobs, x.job.source.sourceId = g.id)) :
    Settled ctx s₀.db g t := by
  induction jobs generalizing s with
  | nil =>
    obtain rfl := Option.some.inj h
    refine hstart.elim id ?_
    rintro ⟨-, x, hx, -⟩
    exact absurd hx List.not_mem_nil
  | cons y jobs ih =>
    obtain ⟨s₁, hstep, hrest⟩ := System.execute_cons.mp h
    have hjob := hjobs y List.mem_cons_self
    have hsame₁ := (reconciliation_ok hjob hstep).1.trans hsame
    refine ih hsame₁ (fun x hx => hjobs x (List.mem_cons_of_mem _ hx)) hrest ?_
    have hnext := reconciliation_settles hsame hg htenant hjob hstep
    rcases hstart with hsettled | ⟨hsome, x, hx, hsource⟩
    · exact .inl (hnext (.inl hsettled))
    · rcases List.mem_cons.mp hx with rfl | hmem
      · exact .inl (hnext (.inr ⟨hsome, hsource⟩))
      · exact .inr ⟨hsome, x, hmem, hsource⟩

end Runs

-- ============================================================================
-- The sources
-- ============================================================================

/-- Jobs of the tenant's groups have completed, among them one for each group with a rule. -/
structure FullReconciliation (ctx : WorkerContext) (s : AccessStore) (start : Store)
    (jobs : List CompletedJob) (t : Store) : Prop where
  tables : start.db = s.database
  groupJobs : ∀ x ∈ jobs, IsGroupJob ctx x
  all : ∀ g ∈ s.database.groups.rows, g.tenantCode = ctx.tenantCode → g.matchingRule ≠ none →
    ∃ x ∈ jobs, x.job.source.sourceId = g.id
  completed : (reconciliations ctx).execute start jobs = some t

namespace FullReconciliation

variable {s : AccessStore} {start t : Store} {jobs : List CompletedJob} {g : UserGroup}
  {userId : Uuid}

/-- The groups of a user are the sources the user is a member of. -/
theorem mem_groupsOf (h : FullReconciliation ctx s start jobs t)
    (hg : g ∈ s.database.groups.rows) (htenant : g.tenantCode = ctx.tenantCode) :
    g.id ∈ groupsOf t.db ctx.tenantCode userId ↔
      userId ∈ (s.sources ctx.columns).members g.id := by
  rw [AccessStore.members_eq hg, ← h.tables]
  have hall := h.all g hg htenant
  rw [← h.tables] at hg
  refine reconciliations_settle rfl hg htenant h.groupJobs h.completed ?_ userId
  by_cases hrule : g.matchingRule = none
  · refine .inl fun userId => ?_
    rw [population, hrule, ← htenant]
    rfl
  · exact .inr ⟨hrule, hall hrule⟩

/-- What the memberships grant is what these sources give. -/
theorem mem_granted (h : FullReconciliation ctx s start jobs t) {e : UserEffectiveRoleEntry} :
    e ∈ granted t.db ctx.tenantCode userId ↔
      ∃ g ∈ s.database.groups.rows, g.tenantCode = ctx.tenantCode ∧
        userId ∈ (s.sources ctx.columns).members g.id ∧
          .role e ∈ (s.sources ctx.columns).gives g.id := by
  have hsame := reconciliations_configuration h.groupJobs h.completed
  have hroles : t.db.groupRoles = s.assignments := by
    rw [show t.db.groupRoles = start.db.groupRoles from congrArg (fun c => c.2.2) hsame, h.tables]
    rfl
  constructor
  · rintro ⟨g', hg', htenant, hactive, hmember, r, hr, hrtenant, hrgroup, rfl⟩
    obtain ⟨version, hg⟩ := exists_group hsame.symm hg'
    rw [h.tables] at hg
    refine ⟨_, hg, htenant, (h.mem_groupsOf hg htenant).mp hmember, ?_⟩
    rw [AccessStore.gives_eq hg, AccessStore.role_mem_given]
    refine ⟨hactive, r.roleId, ?_, rfl⟩
    show (⟨g'.tenantCode, g'.id, r.roleId⟩ : UserGroupRole) ∈ s.assignments.rows
    rw [htenant, ← hrtenant, ← hrgroup, ← hroles]
    exact hr
  · rintro ⟨g, hg, htenant, hmember, hgives⟩
    rw [AccessStore.gives_eq hg, AccessStore.role_mem_given] at hgives
    obtain ⟨hactive, roleId, hrole, rfl⟩ := hgives
    have hstored := (h.mem_groupsOf hg htenant).mpr hmember
    rw [← h.tables] at hg
    obtain ⟨version, hg'⟩ := exists_group hsame hg
    refine ⟨_, hg', htenant, hactive, hstored, ⟨g.tenantCode, g.id, roleId⟩, ?_, htenant, rfl, rfl⟩
    rw [hroles]
    exact hrole

end FullReconciliation

end AccessService.ImpactAnalysis
