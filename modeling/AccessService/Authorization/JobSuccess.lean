/-
  AccessService.Authorization.JobSuccess

  When a job cannot fail: no call runs into anything, the database accepts the query of
  every group's rule, and takes the reference of every group's scope for a UUID.  Of the
  worker's calls only these two may be refused for what they are given; the inserts of
  memberships and the updates of the job keep to the unique constraints.
-/

import AccessService.Authorization.JobRuns

namespace AccessService.Authorization

open AccessService.Lib AccessService.Pg AccessService.Persistence AccessService.UserGroups
open UserGroupMatchingEngine

-- ============================================================================
-- Groups that can be reconciled
-- ============================================================================

/-- The column takes the text, or there is none. -/
def ScopeAccepted (uuid : UuidInput) (scopeRefId : Option String) : Prop :=
  ∀ text ∈ orNull scopeRefId, ∃ id, uuid.input text = some id

/-- The database accepts the query's parameters. -/
def QueryAccepted (columns : ColumnTypes) (query : MatchingQuery) : Prop :=
  ∃ value, Sql.whereValue columns.type (query.params.map QueryParam.bind) (fun _ => none)
    query.conditions = .ok value

/-- What the group's reconciliation hands to the database is accepted. -/
structure WellFormed (uuid : UuidInput) (columns : ColumnTypes) (g : UserGroup) : Prop where
  query : ∀ rule ∈ g.matchingRule, QueryAccepted columns (buildMatchingQuery g.tenantCode rule)
  scope : ScopeAccepted uuid g.scopeRefId

def WellConfigured (uuid : UuidInput) (columns : ColumnTypes) (db : Database) : Prop :=
  ∀ g ∈ db.groups.rows, WellFormed uuid columns g

section WellConfigured

variable {uuid : UuidInput} {columns : ColumnTypes} {db : Database}

theorem WellConfigured.of_group {tenantCode : String} {id : Uuid} {g : UserGroup}
    (h : WellConfigured uuid columns db) (hg : db.group tenantCode id = some g) :
    WellFormed uuid columns g :=
  h g (Database.group_eq_some.mp hg).1

/-- A group's projection version is none of that. -/
theorem WellConfigured.told {id : Uuid} (tenantCode : String) (version : Nat)
    (h : WellConfigured uuid columns db) :
    WellConfigured uuid columns { db with
      groups := db.groups.update (UserGroupRepository.withProjectionVersion tenantCode id version)
        (UserGroupRepository.withProjectionVersion_id tenantCode id version) } := by
  intro g hg
  obtain ⟨old, hold, rfl⟩ := List.mem_map.mp hg
  unfold UserGroupRepository.withProjectionVersion
  split
  · exact ⟨(h old hold).query, (h old hold).scope⟩
  · exact h old hold

end WellConfigured

/-- Well-formed groups, and no two jobs in flight for one version. -/
structure Ready (ctx : Context) (s : Store) : Prop where
  groups : WellConfigured ctx.uuid ctx.columns s.db
  jobs : s.db.jobs.InFlightUnique

theorem Ready.of_same {ctx : Context} {s s' : Store} (h : Ready ctx s)
    (hgroups : s'.db.groups = s.db.groups) (hjobs : s'.db.jobs = s.db.jobs) : Ready ctx s' := by
  refine ⟨?_, hjobs ▸ h.jobs⟩
  have hwell := h.groups
  rwa [WellConfigured, ← hgroups] at hwell

-- ============================================================================
-- The effective roles
-- ============================================================================

section Roles

variable {ctx : Context}

theorem succeeds_readDb {α : Type} {P : Store → Prop} (f : Database → α) :
    Faulty.Succeeds P (readDb f : Service α) fun a s => P s ∧ a = f s.db :=
  Faulty.succeeds_read fun _ hs => ⟨hs, rfl⟩

theorem succeeds_writeDb {P : Store → Prop} {Q : Unit → Store → Prop} (f : Database → Database)
    (h : ∀ s, P s → Q () { s with db := f s.db }) : Faulty.Succeeds P (writeDb f) Q :=
  Faulty.succeeds_write h

/-- An entry with an accepted scope has a row. -/
theorem rowOf_accepted {userId : Uuid} {e : UserEffectiveRoleEntry}
    (h : ScopeAccepted ctx.uuid e.scopeEntityId) : ∃ row, rowOf ctx userId e = .ok row := by
  unfold rowOf
  rcases hscope : orNull e.scopeEntityId with _ | text
  · exact ⟨_, rfl⟩
  · obtain ⟨id, hid⟩ := h text hscope
    simp only [hid]
    exact ⟨_, rfl⟩

theorem mapM_runs {ε α β : Type} {f : α → Except ε β} {as : List α}
    (h : ∀ a ∈ as, ∃ b, f a = .ok b) : ∃ bs, as.mapM f = .ok bs := by
  suffices hmap : ∃ bs : List β, as.map f = bs.map .ok from
    hmap.imp fun _ => Sql.mapM_eq_ok_map.mpr
  induction as with
  | nil => exact ⟨[], rfl⟩
  | cons a as ih =>
    obtain ⟨b, hb⟩ := h a List.mem_cons_self
    obtain ⟨bs, hbs⟩ := ih fun a' ha' => h a' (List.mem_cons_of_mem _ ha')
    exact ⟨b :: bs, by rw [List.map_cons, List.map_cons, hb, hbs]⟩

theorem syncRows_succeeds (userId : Uuid) {targets : List UserEffectiveRoleEntry}
    (h : ∀ e ∈ targets, ScopeAccepted ctx.uuid e.scopeEntityId) :
    Faulty.Succeeds (Ready ctx)
      (UserGroups.UserEffectiveRoleRepository.syncRows ctx userId targets)
      fun _ => Ready ctx := by
  refine (succeeds_readDb _).bind fun rows => ?_
  refine Faulty.Succeeds.bind (Q := fun _ => Ready ctx) ?_ fun _ => ?_
  · refine Faulty.succeeds_when (fun _ => ?_) fun _ hs _ => hs.1
    unfold UserGroups.UserEffectiveRoleRepository.deleteByTenantAndIds
    split
    · exact Faulty.succeeds_pure fun _ hs => hs.1
    · exact succeeds_writeDb _ fun _ hs => hs.1.of_same rfl rfl
  · refine Faulty.Succeeds.bind (Q := fun _ => Ready ctx) ?_ fun _ =>
      Faulty.succeeds_pure fun _ hs => hs
    refine Faulty.succeeds_when (fun _ => ?_) fun _ hs _ => hs
    refine Faulty.succeeds_call fun s hs => ?_
    obtain ⟨news, hnews⟩ : ∃ news,
        (UserGroups.UserEffectiveRoleRepository.toInsert rows targets).mapM (rowOf ctx userId) =
          .ok news :=
      mapM_runs fun e he => rowOf_accepted
        (h e (UserGroups.UserEffectiveRoleRepository.mem_toInsert he).1)
    simp only [hnews]
    exact ⟨(), _, rfl, hs.of_same rfl rfl⟩

/-- What a group grants has the group's scope. -/
theorem grantsOf_succeeds {δ : Type} (ctx : Context) (groupId : Uuid)
    (entry : UserGroup → UserGroupRole → δ) {q : δ → Prop}
    (h : ∀ g r, ScopeAccepted ctx.uuid g.scopeRefId → q (entry g r)) :
    Faulty.Succeeds (Ready ctx) (grantsOf ctx groupId entry)
      fun targets s => Ready ctx s ∧ ∀ e ∈ targets, q e := by
  refine (succeeds_readDb _).bind fun group => ?_
  rcases group with _ | g
  · exact Faulty.succeeds_pure fun s hs => ⟨hs.1, fun _ hmem => absurd hmem List.not_mem_nil⟩
  · by_cases hactive : g.status ≠ .ACTIVE
    · simp only [if_pos hactive]
      exact Faulty.succeeds_pure fun s hs => ⟨hs.1, fun _ hmem => absurd hmem List.not_mem_nil⟩
    · simp only [if_neg hactive]
      have hroles : Faulty.Succeeds
          (fun s => Ready ctx s ∧ some g = s.db.group ctx.tenantCode groupId)
          (UserGroupRoleRepository.findByGroup ctx groupId)
          fun _ s => Ready ctx s ∧ ScopeAccepted ctx.uuid g.scopeRefId :=
        (succeeds_readDb _).mono (fun _ hs => hs) fun _ s hs =>
          ⟨hs.1.1, (hs.1.1.groups.of_group hs.1.2.symm).scope⟩
      refine hroles.bind fun roles => Faulty.succeeds_pure fun s hs => ⟨hs.1, fun e hmem => ?_⟩
      obtain ⟨r, -, rfl⟩ := List.mem_map.mp hmem
      exact h g r hs.2

/-- So has what a list of memberships grants. -/
theorem collectGrants_succeeds {δ : Type} (ctx : Context) (entry : UserGroup → UserGroupRole → δ)
    (memberships : List UserGroupMembership) {q : δ → Prop}
    (h : ∀ g r, ScopeAccepted ctx.uuid g.scopeRefId → q (entry g r)) :
    Faulty.Succeeds (Ready ctx)
      (.collect (fun m : UserGroupMembership => grantsOf ctx m.groupId entry) memberships)
      fun targets s => Ready ctx s ∧ ∀ e ∈ targets, q e :=
  Faulty.succeeds_collect fun m _ => grantsOf_succeeds ctx m.groupId entry h

theorem scopeAccepted_orNull {uuid : UuidInput} {scopeRefId : Option String}
    (h : ScopeAccepted uuid scopeRefId) : ScopeAccepted uuid (orNull scopeRefId) := by
  intro text htext
  rw [orNull, Option.mem_filter_iff] at htext
  exact h text htext.1

theorem reconcileAffected_succeeds (userId : Uuid) :
    Faulty.Succeeds (Ready ctx) (MembershipReconciler.reconcileAffected ctx userId)
      fun _ => Ready ctx := by
  refine (succeeds_readDb _).bind fun memberships => ?_
  have hgrants := collectGrants_succeeds ctx grant memberships
    (q := fun e => ScopeAccepted ctx.uuid e.scopeEntityId) fun _ _ h => scopeAccepted_orNull h
  refine (hgrants.mono (fun _ hs => hs.1) fun _ _ h => h).bind fun targets => ?_
  intro w hw hpost
  obtain ⟨diff, w', hrun, hquiet, hready⟩ := syncRows_succeeds userId hpost.2 w hw hpost.1
  exact ⟨(), w', Faulty.bind_runs hrun, hquiet, hready⟩

theorem syncUserCache_succeeds (tenantCode : String) (userId : Uuid)
    (roles : List EffectiveUserRole) :
    Faulty.Succeeds (Ready ctx)
      (UserAuthorizationCacheService.syncUserCache ctx tenantCode userId (some roles))
      fun _ => Ready ctx := by
  refine (Faulty.succeeds_pure (Q := fun _ => Ready ctx) fun _ hs => hs).bind fun roles =>
    Faulty.Succeeds.bind (Q := fun _ => Ready ctx) ?_ fun version => ?_
  · unfold UserAuthorizationCacheService.nextVersion
    split
    · exact (Faulty.succeeds_call fun s hs => ⟨_, _, rfl, hs.of_same rfl rfl⟩).tryCatch
    · exact Faulty.succeeds_pure fun _ hs => hs
  · refine Faulty.Succeeds.bind (Q := fun _ => Ready ctx) ?_ fun _ =>
      Faulty.succeeds_pure fun _ hs => hs
    exact (Faulty.succeeds_write fun s hs => hs.of_same rfl rfl).tryCatch

theorem recompute_succeeds (tenantCode : String) (userId : Uuid) :
    Faulty.Succeeds (Ready ctx)
      (EffectiveRoleProjectionService.recomputeUserEffectiveRoles ctx tenantCode userId)
      fun _ => Ready ctx := by
  refine (succeeds_readDb _).bind fun memberships => ?_
  have hgrants := collectGrants_succeeds ctx EffectiveRoleProjectionService.persistEntry memberships
    (q := fun t => ScopeAccepted ctx.uuid t.scope.refId) fun _ _ h => scopeAccepted_orNull h
  refine (hgrants.mono (fun _ hs => hs.1) fun _ _ h => h).bind fun targets => ?_
  refine Faulty.Succeeds.bind (Q := fun _ => Ready ctx) ?_ fun diff =>
    (syncUserCache_succeeds tenantCode userId _).bind fun _ => Faulty.succeeds_pure fun _ hs => hs
  unfold EffectiveRoleProjectionService.persistRoles
  split
  · refine (Faulty.succeeds_call (Q := fun _ => Ready ctx) fun s hs => ?_).bind fun n =>
      Faulty.succeeds_pure fun _ hs => hs
    exact ⟨_, _, rfl, hs.1.of_same rfl rfl⟩
  · intro w hw hpost
    refine syncRows_succeeds userId (fun e he => ?_) w hw hpost.1
    obtain ⟨t, ht, rfl⟩ := List.mem_map.mp he
    exact hpost.2 t ht

end Roles

-- ============================================================================
-- The memberships
-- ============================================================================

section Memberships

variable {ctx : Context}

/-- The members to add are none yet, so the unique constraint takes them. -/
theorem batchInsert_succeeds (groupId : Uuid) (matched members : List Uuid) :
    Faulty.Succeeds (fun s => Ready ctx s ∧ members = s.db.membersOf ctx.tenantCode groupId)
      (UserGroupMembershipRepository.batchInsert ctx groupId
        (MembershipReconciler.diff (Js.setOf matched) (Js.setOf members)))
      fun _ => Ready ctx := by
  unfold UserGroupMembershipRepository.batchInsert
  split
  · exact Faulty.succeeds_pure fun _ hs => hs.1
  · refine Faulty.succeeds_call fun s hs => ?_
    obtain ⟨table, htable⟩ : ∃ table, s.db.memberships.insertAll
        ((MembershipReconciler.diff (Js.setOf matched) (Js.setOf members)).map fun userId =>
          ⟨ctx.tenantCode, groupId, userId⟩) = some table := by
      refine Keyed.insertAll_fresh ?_ fun m hm hold => ?_
      · rw [List.map_id]
        refine List.Nodup.map (fun a b hab => (UserGroupMembership.mk.inj hab).2.2) ?_
        exact (Js.nodup_setOf matched).filter _
      · obtain ⟨userId, hadded, rfl⟩ := List.mem_map.mp hm
        obtain ⟨row, hrow, hsame⟩ := List.mem_map.mp hold
        refine (MembershipReconciler.mem_diff_setOf.mp hadded).2 ?_
        have hmember : row = ⟨ctx.tenantCode, groupId, userId⟩ := hsame
        rw [hs.2, Database.mem_membersOf]
        exact hmember ▸ hrow
    simp only [htable]
    exact ⟨(), _, rfl, hs.1.of_same rfl rfl⟩

theorem batchDelete_succeeds (groupId : Uuid) (userIds : List Uuid) :
    Faulty.Succeeds (Ready ctx) (UserGroupMembershipRepository.batchDelete ctx groupId userIds)
      fun _ => Ready ctx := by
  unfold UserGroupMembershipRepository.batchDelete
  split
  · exact Faulty.succeeds_pure fun _ hs => hs
  · exact succeeds_writeDb _ fun s hs => hs.of_same rfl rfl

theorem updateProjectionVersion_succeeds (groupId : Uuid) (version : Nat) :
    Faulty.Succeeds (Ready ctx) (UserGroupRepository.updateProjectionVersion ctx groupId version)
      fun _ => Ready ctx :=
  succeeds_writeDb _ fun _ hs => ⟨hs.groups.told ctx.tenantCode version, hs.jobs⟩

theorem reconcileGroupPopulation_succeeds (groupId : Uuid) (matched : List Uuid)
    (version : Nat) :
    Faulty.Succeeds (Ready ctx)
      (MembershipReconciler.reconcileGroupPopulation ctx groupId matched version)
      fun _ => Ready ctx := by
  refine (succeeds_readDb _).bind fun members => ?_
  refine Faulty.Succeeds.bind (Q := fun _ => Ready ctx) (Faulty.succeeds_when
    (fun _ => batchInsert_succeeds groupId matched members) fun _ hs _ => hs.1) fun _ => ?_
  refine Faulty.Succeeds.bind (Q := fun _ => Ready ctx) (Faulty.succeeds_when
    (fun _ => batchDelete_succeeds groupId _) fun _ hs _ => hs) fun _ => ?_
  refine (succeeds_readDb _).bind fun group => ?_
  refine Faulty.Succeeds.bind (Q := fun _ => Ready ctx) (Faulty.succeeds_when (fun _ => ?_)
    fun _ hs _ => hs.1) fun _ => Faulty.succeeds_pure fun _ hs => hs
  refine Faulty.Succeeds.mono ?_ (fun _ hs => hs.1) fun _ _ hs => hs
  exact (Faulty.succeeds_forEach fun userId _ => reconcileAffected_succeeds userId).bind fun _ =>
    updateProjectionVersion_succeeds groupId version

end Memberships

-- ============================================================================
-- The job
-- ============================================================================

namespace AuthorizationReconciliationWorker

open AuthorizationSyncJobRepository

variable {ctx : WorkerContext} {id : JobId} {job : AuthorizationSyncJob}

/-- A write that keeps status and key breaks no constraint. -/
theorem update_succeeds {f : Timestamp → AuthorizationSyncJob → AuthorizationSyncJob}
    (hf : ∀ (jobs : JobTable) now, jobs.InFlightUnique →
      ∃ jobs', jobs.update id (f now) = some jobs') :
    Faulty.Succeeds (Ready ctx.toContext) (AuthorizationSyncJobRepository.update id f)
      fun _ => Ready ctx.toContext := by
  refine Faulty.succeeds_call fun s hs => ?_
  obtain ⟨jobs, hjobs⟩ := hf s.db.jobs s.now hs.jobs
  simp only [hjobs]
  exact ⟨(), _, rfl, hs.groups, JobTable.update_unique hjobs hs.jobs⟩

theorem updateProgress_succeeds (id : JobId) (processed : Nat) (total : Option Nat) :
    Faulty.Succeeds (Ready ctx.toContext) (updateProgress id processed total)
      fun _ => Ready ctx.toContext := by
  refine update_succeeds fun jobs now hunique => ?_
  unfold JobTable.update
  split
  · exact ⟨jobs, rfl⟩
  next row hrow =>
    have hfree : JobTable.conflicts jobs id
        (AuthorizationSyncJob.progressed now processed total row) = false := by
      refine JobTable.conflicts_eq_false.mpr fun hflight i other hother hne hother' hkey => hne ?_
      exact hunique i id other row hother hrow hother' hflight hkey
    exact ⟨_, if_neg (by rw [hfree]; exact Bool.false_ne_true)⟩

theorem reconcileMemberships_succeeds (htenant : job.tenantCode = ctx.tenantCode) :
    Faulty.Succeeds (Ready ctx.toContext) (reconcileMemberships ctx job)
      fun _ => Ready ctx.toContext := by
  unfold reconcileMemberships
  split
  · exact Faulty.succeeds_pure fun _ hs => hs
  · refine (succeeds_readDb _).bind fun group => ?_
    split
    · exact Faulty.succeeds_pure fun _ hs => hs.1
    next rule hrule =>
      have hmatch : Faulty.Succeeds
          (fun s => Ready ctx.toContext s ∧ group = s.db.group ctx.tenantCode job.source.sourceId)
          (EmployeeReferenceRepository.getMatchedEmployeeIds ctx.toContext
            (buildMatchingQuery job.tenantCode rule)) fun _ => Ready ctx.toContext := by
        refine Faulty.succeeds_call fun s hs => ?_
        obtain ⟨g, rfl, hg⟩ := Option.bind_eq_some_iff.mp hrule
        have hgroup := hs.2.symm
        obtain ⟨value, hvalue⟩ := (hs.1.groups.of_group hgroup).query rule hg
        rw [(Database.group_eq_some.mp hgroup).2.1, ← htenant] at hvalue
        simp only [hvalue]
        exact ⟨_, s, rfl, hs.1⟩
      exact hmatch.bind fun matched => (reconcileGroupPopulation_succeeds _ matched _).bind fun _ =>
        Faulty.succeeds_pure fun _ hs => hs

theorem processBatches_succeeds (total fuel processed : Nat) :
    Faulty.Succeeds (Ready ctx.toContext) (processBatches ctx id job total fuel processed)
      fun _ => Ready ctx.toContext := by
  induction fuel generalizing processed with
  | zero => exact Faulty.succeeds_pure fun _ hs => hs
  | succ fuel ih =>
    have hbody : ∀ user : User, Faulty.Succeeds (Ready ctx.toContext) (recomputeUser ctx job user)
        fun _ => Ready ctx.toContext := fun user =>
      (recompute_succeeds job.tenantCode user.id).bind fun _ =>
        Faulty.succeeds_pure fun _ hs => hs
    rw [processBatches]
    split
    · refine (succeeds_readDb _).bind fun users => ?_
      refine Faulty.Succeeds.mono ?_ (fun _ hs => hs.1) fun _ _ hs => hs
      split
      · exact Faulty.succeeds_pure fun _ hs => hs
      · exact (Faulty.succeeds_forEach fun user _ => hbody user).bind fun _ =>
          (updateProgress_succeeds id _ _).bind fun _ => ih _
    · exact Faulty.succeeds_pure fun _ hs => hs

theorem create_succeeds (event : OutboxEvent) :
    Faulty.Succeeds (Ready ctx.toContext) (OutboxEventRepository.create event)
      fun _ => Ready ctx.toContext :=
  succeeds_writeDb _ fun _ hs => hs.of_same rfl rfl

theorem advanceProjection_succeeds (ctx : WorkerContext) (job : AuthorizationSyncJob) :
    Faulty.Succeeds (Ready ctx.toContext) (advanceProjection ctx job)
      fun _ => Ready ctx.toContext := by
  unfold advanceProjection
  split
  · exact updateProjectionVersion_succeeds _ _
  · exact (succeeds_writeDb _ fun s hs => hs.of_same rfl rfl).tryCatch

theorem markCompleted_succeeds (id : JobId) (processed : Nat) :
    Faulty.Succeeds (Ready ctx.toContext) (markCompleted id processed)
      fun _ => Ready ctx.toContext :=
  update_succeeds fun jobs now _ => update_final
    (f := fun now => AuthorizationSyncJob.completed now processed) (fun _ _ => rfl) jobs id now

theorem finalizeJob_succeeds (processed : Nat) :
    Faulty.Succeeds (Ready ctx.toContext) (finalizeJob ctx id job processed)
      fun _ => Ready ctx.toContext := by
  unfold finalizeJob runInTransaction
  refine Faulty.Succeeds.transaction ?_
  exact (advanceProjection_succeeds ctx job).bind fun _ =>
    (markCompleted_succeeds id processed).bind fun _ => create_succeeds _

/-- Undisturbed, a job of the tenant does not fail. -/
theorem executeJob_succeeds (ctx : WorkerContext) (id : JobId) (job : AuthorizationSyncJob)
    (htenant : job.tenantCode = ctx.tenantCode) :
    Faulty.Succeeds (Ready ctx.toContext) (executeJob ctx id job)
      fun _ => Ready ctx.toContext := by
  have hprepare : Faulty.Succeeds (Ready ctx.toContext) (prepareJob ctx id job)
      fun _ => Ready ctx.toContext :=
    (succeeds_readDb _).bind fun total =>
      ((updateProgress_succeeds id 0 _).mono (fun _ hs => hs.1) fun _ _ hs => hs).bind fun _ =>
        (reconcileMemberships_succeeds htenant).bind fun _ => Faulty.succeeds_pure fun _ hs => hs
  exact hprepare.bind fun total => (processBatches_succeeds total total 0).bind fun processed =>
    finalizeJob_succeeds processed

end AuthorizationReconciliationWorker

end AccessService.Authorization
