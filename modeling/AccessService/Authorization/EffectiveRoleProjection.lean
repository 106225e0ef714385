/-
  AccessService.Authorization.EffectiveRoleProjection

  `effective-role-projection.service.ts` and the authorization module's
  `user-effective-role.repository.ts`: a user's effective roles are computed
  anew from the memberships, stored and cached.
-/

import AccessService.Authorization.UserAuthorizationCache
import AccessService.UserGroups.GroupGrants

namespace AccessService.Authorization

open AccessService.Lib AccessService.Pg AccessService.Persistence AccessService.UserGroups

-- ============================================================================
-- The repository
-- ============================================================================

structure PersistUserEffectiveRoleEntry where
  roleId : Uuid
  sourceGroupId : Uuid
  scope : ScopeConstraint
  deriving DecidableEq

namespace UserEffectiveRoleRepository

def deleteByUserId (ctx : Context) (userId : Uuid) : Service Nat :=
  .call fun s => .ok ((effectiveRolesOf s.db ctx.tenantCode userId).length,
    { s with db := { s.db with
      effectiveRoles := s.db.effectiveRoles.deleteWhere fun row =>
        isRoleOf ctx.tenantCode userId row.2 } })

def syncedEntry (t : PersistUserEffectiveRoleEntry) : UserEffectiveRoleEntry :=
  ⟨t.roleId, t.sourceGroupId, t.scope.type, t.scope.refId⟩

def syncUserEffectiveRoles (ctx : Context) (userId : Uuid)
    (targetEntries : List PersistUserEffectiveRoleEntry) : Service SyncDiff :=
  UserGroups.UserEffectiveRoleRepository.syncRows ctx userId (targetEntries.map syncedEntry)

end UserEffectiveRoleRepository

-- ============================================================================
-- The service
-- ============================================================================

structure RecomputeResult where
  inserted : Nat
  deleted : Nat
  activeRolesCount : Nat
  deriving DecidableEq

namespace EffectiveRoleProjectionService

open UserEffectiveRoleRepository

def persistEntry (g : UserGroup) (r : UserGroupRole) : PersistUserEffectiveRoleEntry :=
  ⟨r.roleId, g.id, ⟨g.scopeType, orNull g.scopeRefId⟩⟩

def memoryRole (t : PersistUserEffectiveRoleEntry) : EffectiveUserRole :=
  ⟨t.roleId, t.sourceGroupId, t.scope⟩

/-- Without a role to keep, everything goes. -/
def persistRoles (ctx : Context) (userId : Uuid)
    (targetEntries : List PersistUserEffectiveRoleEntry) : Service SyncDiff :=
  if targetEntries.length = 0 then do
    let deletedCount ← deleteByUserId ctx userId
    pure ⟨0, deletedCount⟩
  else syncUserEffectiveRoles ctx userId targetEntries

/-- The source fills `targetEntries` and `memoryRoles` side by side. -/
def recomputeUserEffectiveRoles (ctx : Context) (tenantCode : String) (userId : Uuid) :
    Service RecomputeResult := do
  let activeMemberships ← UserGroupMembershipRepository.findByUserId ctx userId
  let targetEntries ← .collect (fun m => grantsOf ctx m.groupId persistEntry) activeMemberships
  let memoryRoles := targetEntries.map memoryRole
  let diff ← persistRoles ctx userId targetEntries
  let _ ← UserAuthorizationCacheService.syncUserCache ctx tenantCode userId (some memoryRoles)
  pure ⟨diff.inserted, diff.deleted, memoryRoles.length⟩

-- ============================================================================
-- What a recomputation does
-- ============================================================================

/-- The entries the loop over the memberships collects. -/
def targetsOf (db : Database) (tenantCode : String) (userId : Uuid) :
    List PersistUserEffectiveRoleEntry :=
  (db.membershipsOf tenantCode userId).flatMap fun m =>
    groupGrants db tenantCode m.groupId persistEntry

theorem targetsOf_synced (db : Database) (tenantCode : String) (userId : Uuid) :
    (targetsOf db tenantCode userId).map syncedEntry = membershipGrants db tenantCode userId := by
  simp only [targetsOf, membershipGrants, List.map_flatMap, groupGrants_map]
  rfl

/-- A recomputation up to its cache call. -/
def projectEffectiveRoles (ctx : Context) (userId : Uuid) :
    Service (List PersistUserEffectiveRoleEntry × SyncDiff) := do
  let activeMemberships ← UserGroupMembershipRepository.findByUserId ctx userId
  let targetEntries ← .collect (fun m => grantsOf ctx m.groupId persistEntry) activeMemberships
  let diff ← persistRoles ctx userId targetEntries
  pure (targetEntries, diff)

/-- The set a profile lists. -/
def listed (roles : List EffectiveUserRole) : Set UserEffectiveRoleEntry :=
  {e | ∃ role ∈ roles, e = ⟨role.roleId, role.sourceGroupId, role.scope.type, role.scope.refId⟩}

theorem listed_memoryRoles (entries : List PersistUserEffectiveRoleEntry) :
    listed (entries.map memoryRole) = {e | e ∈ entries.map syncedEntry} := by
  ext e
  simp only [listed, List.mem_map]
  constructor
  · rintro ⟨_, ⟨t, ht, rfl⟩, rfl⟩
    exact ⟨t, ht, rfl⟩
  · rintro ⟨t, ht, rfl⟩
    exact ⟨_, ⟨t, ht, rfl⟩, rfl⟩

variable {ctx : Context} {tenantCode : String} {userId : Uuid} {w w' : World Store Failure}

/-- The parts of a recomputation that returned: what it read, how it changed the
    rows, all that up to the cache call, and that call. -/
theorem recompute_projects {result : RecomputeResult}
    (h : recomputeUserEffectiveRoles ctx tenantCode userId w = (.ok result, w')) :
    ∃ (w₁ w₂ : World Store Failure) (diff : SyncDiff) (profile : UserAuthorizationProfile),
      w₁.state = w.state ∧ (Faulty.Quiet w → Faulty.Quiet w₁) ∧
      persistRoles ctx userId (targetsOf w.state.db ctx.tenantCode userId) w₁ =
        (.ok diff, w₂) ∧
      projectEffectiveRoles ctx userId w =
        (.ok (targetsOf w.state.db ctx.tenantCode userId, diff), w₂) ∧
      UserAuthorizationCacheService.syncUserCache ctx tenantCode userId
        (some ((targetsOf w.state.db ctx.tenantCode userId).map memoryRole)) w₂ =
          (.ok profile, w') ∧
      result.inserted = diff.inserted ∧ result.deleted = diff.deleted := by
  simp only [recomputeUserEffectiveRoles, Faulty.bind_ok, Faulty.pure_ok] at h
  obtain ⟨memberships, wm, hfind, entries, wc, hcollect, diff, wp, hpersist, profile, wk, hcache,
    rfl, rfl⟩ := h
  have hproject : projectEffectiveRoles ctx userId w = (.ok (entries, diff), wp) := by
    simp only [projectEffectiveRoles, Faulty.bind_ok, Faulty.pure_ok]
    exact ⟨memberships, wm, hfind, entries, wc, hcollect, diff, wp, hpersist, rfl, rfl⟩
  obtain ⟨rfl, hstate⟩ := (reads_readDb _).ok hfind
  obtain ⟨hentries, hstate'⟩ := (reads_collect_grants ctx UserGroupMembership.groupId
    (fun _ => persistEntry) _).ok hcollect
  have htargets : entries = targetsOf w.state.db ctx.tenantCode userId := by
    rw [hentries, hstate]
    rfl
  subst htargets
  have hquiet : Faulty.Quiet w → Faulty.Quiet wc := by
    intro hw
    have hwm := (keepsQuiet_readDb _).ok hw hfind
    refine (Faulty.keepsQuiet_collect (fun m => ?_) _).ok hwm hcollect
    exact grantsOf_keepsQuiet ctx m.groupId persistEntry
  exact ⟨wc, wp, diff, profile, hstate'.trans hstate, hquiet, hpersist, hproject, hcache, rfl, rfl⟩

theorem recompute_ok {result : RecomputeResult}
    (h : recomputeUserEffectiveRoles ctx tenantCode userId w = (.ok result, w')) :
    ∃ (w₁ w₂ : World Store Failure) (diff : SyncDiff),
      w₁.state = w.state ∧ (Faulty.Quiet w → Faulty.Quiet w₁) ∧
      persistRoles ctx userId (targetsOf w.state.db ctx.tenantCode userId) w₁ =
        (.ok diff, w₂) ∧
      (∃ profile, UserAuthorizationCacheService.syncUserCache ctx tenantCode userId
        (some ((targetsOf w.state.db ctx.tenantCode userId).map memoryRole)) w₂ =
          (.ok profile, w')) ∧
      result.inserted = diff.inserted ∧ result.deleted = diff.deleted := by
  obtain ⟨w₁, w₂, diff, profile, hstate, hquiet, hpersist, -, hcache, hcounts⟩ :=
    recompute_projects h
  exact ⟨w₁, w₂, diff, hstate, hquiet, hpersist, ⟨profile, hcache⟩, hcounts⟩

theorem persistRoles_keepsQuiet (ctx : Context) (userId : Uuid)
    (targets : List PersistUserEffectiveRoleEntry) :
    Faulty.KeepsQuiet (persistRoles ctx userId targets) := by
  unfold persistRoles
  split
  · refine Faulty.KeepsQuiet.bind (Faulty.keepsQuiet_call _) fun n => ?_
    exact Faulty.keepsQuiet_pure _
  · exact UserGroups.UserEffectiveRoleRepository.syncRows_keepsQuiet ctx userId _

theorem persistRoles_leavesTables (ctx : Context) (userId : Uuid)
    (targets : List PersistUserEffectiveRoleEntry) :
    Faulty.Leaves Store.tables (persistRoles ctx userId targets) := by
  unfold persistRoles
  split
  · refine (Faulty.leaves_call fun s n s' hcall => ?_).bind fun n => Faulty.leaves_pure _
    obtain rfl := (Prod.mk.inj (Except.ok.inj hcall)).2
    rfl
  · exact UserGroups.UserEffectiveRoleRepository.syncRows_leavesTables ctx userId _

/-- A recomputation changes effective roles and the cache only. -/
theorem recompute_leavesTables (ctx : Context) (tenantCode : String) (userId : Uuid) :
    Faulty.Leaves Store.tables (recomputeUserEffectiveRoles ctx tenantCode userId) := by
  refine (leaves_readDb _).bind fun memberships => ?_
  have hcollect := reads_collect_grants ctx UserGroupMembership.groupId (fun _ => persistEntry)
    memberships
  refine hcollect.leaves.bind fun targets => ?_
  refine (persistRoles_leavesTables ctx userId targets).bind fun diff => ?_
  refine Faulty.Leaves.bind (fun w => ?_) fun _ => Faulty.leaves_pure _
  rw [Store.tables, UserAuthorizationCacheService.syncUserCache_leaves ctx tenantCode userId _ w]
  rfl

theorem recompute_leaves (ctx : Context) (tenantCode : String) (userId : Uuid) :
    Faulty.Leaves Store.basis (recomputeUserEffectiveRoles ctx tenantCode userId) :=
  leaves_basis (recompute_leavesTables ctx tenantCode userId)

-- ============================================================================
-- What storing the roles does
-- ============================================================================

section Persist

open UserGroups.UserEffectiveRoleRepository

variable {targets : List PersistUserEffectiveRoleEntry} {diff : SyncDiff}

theorem deleteByUserId_ok {n : Nat} (h : deleteByUserId ctx userId w = (.ok n, w')) :
    n = (effectiveRolesOf w.state.db ctx.tenantCode userId).length ∧
      w'.state = { w.state with db := { w.state.db with
        effectiveRoles := w.state.db.effectiveRoles.deleteWhere fun row =>
          isRoleOf ctx.tenantCode userId row.2 } } := by
  obtain ⟨hcount, hstate⟩ := Prod.mk.inj (Except.ok.inj (Faulty.call_ok h))
  exact ⟨hcount.symm, hstate.symm⟩

theorem persistRoles_ok (h : persistRoles ctx userId targets w = (.ok diff, w')) :
    (targets = [] ∧ deleteByUserId ctx userId w = (.ok diff.deleted, w') ∧ diff.inserted = 0) ∨
    (targets ≠ [] ∧ syncRows ctx userId (targets.map syncedEntry) w = (.ok diff, w')) := by
  unfold persistRoles at h
  split at h
  next hnil =>
    simp only [Faulty.bind_ok, Faulty.pure_ok] at h
    obtain ⟨n, w₁, hdelete, rfl, rfl⟩ := h
    exact .inl ⟨List.length_eq_zero_iff.mp hnil, hdelete, rfl⟩
  next hsome =>
    refine .inr ⟨fun hnil => hsome ?_, h⟩
    rw [hnil, List.length_nil]

/-- After a delete the user has no rows. -/
theorem effectiveRolesOf_deleted {n : Nat} (h : deleteByUserId ctx userId w = (.ok n, w')) :
    effectiveRolesOf w'.state.db ctx.tenantCode userId = [] := by
  rw [(deleteByUserId_ok h).2, List.eq_nil_iff_forall_not_mem]
  intro r hr
  obtain ⟨hrow, hmine⟩ := mem_effectiveRolesOf.mp hr
  have hkept := (Table.mem_deleteWhere.mp hrow).2
  rw [isRoleOf_iff.mpr hmine] at hkept
  exact absurd hkept.symm Bool.false_ne_true

theorem persistRoles_frame (h : persistRoles ctx userId targets w = (.ok diff, w')) :
    EffectiveRolesChange w.state w'.state ∧
      OthersKept ctx.tenantCode userId w.state.db w'.state.db := by
  rcases persistRoles_ok h with ⟨-, hdelete, -⟩ | ⟨-, hsync⟩
  · have hstate := (deleteByUserId_ok hdelete).2
    refine ⟨⟨_, hstate⟩, fun r hother => ?_⟩
    rw [hstate]
    show r ∈ (w.state.db.effectiveRoles.deleteWhere _).rows ↔ _
    rw [Table.mem_deleteWhere, hother, and_iff_left rfl]
  · have hsynced := (syncRows_ok hsync).1
    exact ⟨hsynced.frame, hsynced.othersKept⟩

/-- Storing sets the user's effective roles to the targets, exactly when there are
    none or they can be told apart from the rows. -/
theorem persistRoles_persisted_iff (h : persistRoles ctx userId targets w = (.ok diff, w')) :
    persisted w'.state.db ctx.tenantCode userId = {e | e ∈ targets.map syncedEntry} ↔
      targets = [] ∨ ((∀ e ∈ targets.map syncedEntry, e.Canonical) ∧
        NoStaleTwins w.state.db ctx.tenantCode userId {e | e ∈ targets.map syncedEntry}) := by
  rcases persistRoles_ok h with ⟨rfl, hdelete, -⟩ | ⟨hsome, hsync⟩
  · refine ⟨fun _ => .inl rfl, fun _ => ?_⟩
    ext e
    refine ⟨fun ⟨r, hr, _⟩ => ?_, fun he => absurd he List.not_mem_nil⟩
    rw [effectiveRolesOf_deleted hdelete] at hr
    exact absurd hr List.not_mem_nil
  · rw [(syncRows_ok hsync).1.persisted_eq_iff, or_iff_right hsome]

/-- Storing leaves the user without a role exactly when there is nothing to keep, or
    no target has it and each of its rows can be told from the others. -/
theorem persistRoles_roleFree_iff (h : persistRoles ctx userId targets w = (.ok diff, w'))
    (roleId : Uuid) :
    RoleFree w'.state.db ctx.tenantCode userId roleId ↔
      targets = [] ∨ ((∀ e ∈ targets.map syncedEntry, e.roleId ≠ roleId) ∧
        RoleRowsDistinct w.state.db ctx.tenantCode userId roleId) := by
  rcases persistRoles_ok h with ⟨rfl, hdelete, -⟩ | ⟨hsome, hsync⟩
  · refine ⟨fun _ => .inl rfl, fun _ r hr => ?_⟩
    rw [effectiveRolesOf_deleted hdelete] at hr
    exact absurd hr List.not_mem_nil
  · rw [(syncRows_ok hsync).1.roleFree_iff, or_iff_right hsome]

theorem persistRoles_distinct (h : persistRoles ctx userId targets w = (.ok diff, w'))
    (hcan : targets = [] ∨ ((∀ e ∈ targets.map syncedEntry, e.Canonical) ∧
      RowsDistinct w.state.db ctx.tenantCode userId)) :
    RowsDistinct w'.state.db ctx.tenantCode userId := by
  rcases persistRoles_ok h with ⟨-, hdelete, -⟩ | ⟨hsome, hsync⟩
  · intro r hr
    rw [effectiveRolesOf_deleted hdelete] at hr
    exact absurd hr List.not_mem_nil
  · obtain ⟨hcanonical, hdistinct⟩ := hcan.resolve_left hsome
    exact (syncRows_ok hsync).1.rowsDistinct hcanonical hdistinct

/-- Of two rows that agree on the four fields, both stay or the entry goes wrong. -/
theorem persistRoles_distinct_before (h : persistRoles ctx userId targets w = (.ok diff, w'))
    (hsome : targets ≠ [])
    (hpersisted : persisted w'.state.db ctx.tenantCode userId = {e | e ∈ targets.map syncedEntry})
    (hdistinct : RowsDistinct w'.state.db ctx.tenantCode userId) :
    RowsDistinct w.state.db ctx.tenantCode userId := by
  obtain ⟨hnil, -, -⟩ | ⟨-, hsync⟩ := persistRoles_ok h
  · exact absurd hnil hsome
  have hsynced := (syncRows_ok hsync).1
  intro r hr r' hr' hentry
  by_cases htarget : entryOf r.2 ∈ {e | e ∈ targets.map syncedEntry}
  · -- the key is a target, so neither row is deleted
    have hkept : ∀ r₀ ∈ effectiveRolesOf w.state.db ctx.tenantCode userId,
        entryOf r₀.2 = entryOf r.2 →
        r₀ ∈ effectiveRolesOf w'.state.db ctx.tenantCode userId := by
      intro r₀ hr₀ hsame
      obtain ⟨hrow, hmine⟩ := mem_effectiveRolesOf.mp hr₀
      refine mem_effectiveRolesOf.mpr ⟨hsynced.kept hrow fun ⟨_, hdelete⟩ => ?_, hmine⟩
      refine ((mem_toDeleteIds effectiveRolesOf_ids hr₀).mp hdelete).2 _ htarget ?_
      rw [hsame]
    exact hdistinct r (hkept r hr rfl) r' (hkept r' hr' hentry.symm) hentry
  · exact hsynced.noStaleTwins hpersisted r hr r' hr' hentry htarget

/-- Storing what the user has changes nothing. -/
theorem persistRoles_same (h : persistRoles ctx userId targets w = (.ok diff, w'))
    (hpersisted : persisted w.state.db ctx.tenantCode userId = {e | e ∈ targets.map syncedEntry}) :
    diff = ⟨0, 0⟩ ∧ w'.state = w.state := by
  rcases persistRoles_ok h with ⟨rfl, hdelete, hinserted⟩ | ⟨-, hsync⟩
  · obtain ⟨hdeleted, hstate⟩ := deleteByUserId_ok hdelete
    have hnone : effectiveRolesOf w.state.db ctx.tenantCode userId = [] := by
      rw [List.eq_nil_iff_forall_not_mem]
      intro r hr
      have hmem : entryOf r.2 ∈ persisted w.state.db ctx.tenantCode userId := ⟨r, hr, rfl⟩
      rw [hpersisted] at hmem
      exact absurd hmem List.not_mem_nil
    rw [hnone] at hdeleted
    have hdiff : diff = ⟨diff.inserted, diff.deleted⟩ := rfl
    refine ⟨by rw [hdiff, hinserted, hdeleted]; rfl, ?_⟩
    rw [hstate, Table.deleteWhere_none]
    exact Table.find_eq_nil.mp hnone
  · exact syncRows_same hpersisted hsync

end Persist

end EffectiveRoleProjectionService

end AccessService.Authorization
