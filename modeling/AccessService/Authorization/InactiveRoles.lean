/-
  AccessService.Authorization.InactiveRoles

  What an INACTIVE role still grants once every user's effective roles have been
  recomputed: everything it granted before, as long as it is assigned to an ACTIVE
  group.  Nothing on the way from the memberships to the permissions looks at the
  status of a role (`inactive_roles_grant_nothing_iff`).
-/

import AccessService.Authorization.BootstrapAuthorization
import AccessService.Authorization.ProjectionExactness
import AccessService.Lib.Transition

namespace AccessService.Authorization

open AccessService.Js AccessService.Lib AccessService.Lib.Transition AccessService.Pg
open AccessService.Persistence AccessService.Roles AccessService.UserGroups
open BootstrapAuthorizationService EffectiveRoleProjectionService

-- ============================================================================
-- What a role grants
-- ============================================================================

/-- The role has the permission, in the cache or in the database. -/
def Grants (s : RoleStore) (tenantCode : String) (roleId : Uuid) (code : String) : Prop :=
  (∃ entry, s.cachedRoles (tenantCode, roleId) = some entry ∧
    ∃ p ∈ entry.permissions, p.permissionCode = code) ∨
  (∃ role, s.role tenantCode roleId = some role ∧
    ∃ p ∈ role.permissions.rows, p.permissionCode = code)

/-- The user's profile, if one is cached, does not list the role. -/
def Uncached (s : RoleStore) (tenantCode : String) (userId roleId : Uuid) : Prop :=
  ∀ profile, s.base.profiles (tenantCode, userId) = some profile →
    ∀ role ∈ profile.roles, role.roleId ≠ roleId

/-- The user has the role in a row or in the cached profile. -/
def Holds (s : RoleStore) (tenantCode : String) (userId roleId : Uuid) : Prop :=
  ¬(RoleFree s.base.db tenantCode userId roleId ∧ Uncached s tenantCode userId roleId)

/-- The user has nothing that only this role grants. -/
structure GrantsNothing (ctx : Context) (s : RoleStore) (userId roleId : Uuid) : Prop where
  persisted : RoleFree s.base.db ctx.tenantCode userId roleId
  cached : Uncached s ctx.tenantCode userId roleId
  /-- Whichever of its reads fail. -/
  permissions : ∀ (faults : List (Option Failure)) (response : BootstrapCapabilitiesResponse)
    (w' : World RoleStore Failure),
    getBootstrapCapabilities ctx userId ⟨s, faults⟩ = (.ok response, w') →
      ∀ code ∈ response.permissions, ∃ other, other ≠ roleId ∧
        Holds s ctx.tenantCode userId other ∧ Grants s ctx.tenantCode other code

/-- No INACTIVE role of the tenant grants the user anything. -/
def InactiveGrantNothing (ctx : Context) (s : RoleStore) (userId : Uuid) : Prop :=
  ∀ role ∈ s.roles.rows, role.row.tenantCode = ctx.tenantCode → role.row.status = .INACTIVE →
    GrantsNothing ctx s userId role.id

-- ============================================================================
-- Capabilities come from the profile's roles
-- ============================================================================

section Capabilities

variable {ctx : Context} {userId : Uuid} {w w' : World RoleStore Failure}

theorem roleContribution_ok {roleAssignment : EffectiveUserRole}
    {contributions : List RoleContribution}
    (h : roleContribution ctx roleAssignment w = (.ok contributions, w')) :
    w'.state = w.state ∧ ∀ contribution ∈ contributions, ∀ code ∈ contribution.permissionCodes,
      Grants w.state ctx.tenantCode roleAssignment.roleId code := by
  obtain ⟨cachedRole, w₁, hget, hrest⟩ := Faulty.bind_ok.mp h
  have hread : w₁.state = w.state ∧ (cachedRole = none ∨
      cachedRole = w.state.cachedRoles (ctx.tenantCode, roleAssignment.roleId)) := by
    rcases Faulty.tryCatch_pure_ok hget with hread | ⟨e, hread, rfl⟩
    · obtain ⟨rfl, hstate⟩ := Faulty.read_ok hread
      exact ⟨hstate, .inr rfl⟩
    · have hstate := (Faulty.reads_read
        (fun s : RoleStore => s.cachedRoles (ctx.tenantCode, roleAssignment.roleId)) w).1
      rw [RoleCacheService.getRole] at hread
      rw [hread] at hstate
      exact ⟨hstate, .inl rfl⟩
  obtain ⟨hstate, hentry⟩ := hread
  cases cachedRole with
  | some entry =>
    obtain ⟨rfl, rfl⟩ := Faulty.pure_ok.mp hrest
    have hcached := (hentry.resolve_left (Option.some_ne_none _)).symm
    refine ⟨hstate, fun contribution hmem code hcode => .inl ⟨entry, hcached, ?_⟩⟩
    obtain rfl := List.mem_singleton.mp hmem
    exact List.mem_map.mp (List.mem_of_mem_filter hcode)
  | none =>
    obtain ⟨dbRole, w₂, hfind, hreturn⟩ := Faulty.bind_ok.mp hrest
    obtain ⟨rfl, rfl⟩ := Faulty.pure_ok.mp hreturn
    obtain ⟨rfl, hstate₂⟩ := Faulty.read_ok hfind
    rw [hstate] at hstate₂
    refine ⟨hstate₂, fun contribution hmem code hcode => ?_⟩
    rw [hstate] at hmem
    obtain ⟨role, hrole, rfl⟩ := List.mem_map.mp hmem
    exact .inr ⟨role, Option.mem_toList.mp hrole, List.mem_map.mp hcode⟩

/-- The loop over the profile's roles. -/
theorem collect_contributions_ok {roles : List EffectiveUserRole}
    {contributions : List RoleContribution}
    (h : Faulty.collect (roleContribution ctx) roles w = (.ok contributions, w')) :
    ∀ contribution ∈ contributions, ∀ code ∈ contribution.permissionCodes,
      ∃ role ∈ roles, Grants w.state ctx.tenantCode role.roleId code := by
  induction roles generalizing w w' contributions with
  | nil =>
    obtain ⟨rfl, -⟩ := Faulty.pure_ok.mp h
    exact fun _ hmem => absurd hmem List.not_mem_nil
  | cons role roles ih =>
    simp only [Faulty.collect, Faulty.bind_ok, Faulty.pure_ok] at h
    obtain ⟨first, w₁, hfirst, rest, w₂, hrest, rfl, -⟩ := h
    obtain ⟨hstate, hgrants⟩ := roleContribution_ok hfirst
    intro contribution hmem code hcode
    rcases List.mem_append.mp hmem with hmem | hmem
    · exact ⟨role, List.mem_cons_self, hgrants contribution hmem code hcode⟩
    · obtain ⟨other, hother, hgrants'⟩ := ih hrest contribution hmem code hcode
      rw [hstate] at hgrants'
      exact ⟨other, List.mem_cons_of_mem _ hother, hgrants'⟩

/-- Every permission that is returned is that of a role the user holds. -/
theorem getBootstrapCapabilities_ok {response : BootstrapCapabilitiesResponse}
    (h : getBootstrapCapabilities ctx userId w = (.ok response, w')) :
    ∀ code ∈ response.permissions, ∃ roleId,
      Holds w.state ctx.tenantCode userId roleId ∧ Grants w.state ctx.tenantCode roleId code := by
  obtain ⟨userProfile, w₁, hprofile, hrest⟩ := Faulty.bind_ok.mp h
  obtain ⟨v, hget, rfl⟩ := Faulty.zoom_ok.mp hprofile
  split at hrest
  · obtain ⟨rfl, -⟩ := Faulty.pure_ok.mp hrest
    exact fun code hcode => absurd hcode List.not_mem_nil
  · obtain ⟨contributions, w₂, hcollect, hreturn⟩ := Faulty.bind_ok.mp hrest
    obtain ⟨rfl, -⟩ := Faulty.pure_ok.mp hreturn
    intro code hcode
    obtain ⟨contribution, hmem, hcode'⟩ := List.mem_flatMap.mp (mem_setOf.mp hcode)
    obtain ⟨role, hrole, hgrants⟩ := collect_contributions_ok hcollect contribution hmem code hcode'
    refine ⟨role.roleId, fun ⟨hfree, huncached⟩ => ?_, hgrants⟩
    rcases UserAuthorizationCacheService.getUserAuthorizationProfile_ok hget with hcached | hrows
    · exact huncached userProfile hcached role hrole rfl
    · rw [hrows] at hrole
      obtain ⟨row, hrow, rfl⟩ := List.mem_map.mp hrole
      exact hfree row hrow rfl

theorem grantsNothing_iff {s : RoleStore} {roleId : Uuid} :
    GrantsNothing ctx s userId roleId ↔
      RoleFree s.base.db ctx.tenantCode userId roleId ∧
        Uncached s ctx.tenantCode userId roleId := by
  refine ⟨fun h => ⟨h.persisted, h.cached⟩, fun hfree => ⟨hfree.1, hfree.2, ?_⟩⟩
  intro faults response w' h code hcode
  obtain ⟨other, hholds, hgrants⟩ := getBootstrapCapabilities_ok h code hcode
  refine ⟨other, ?_, hholds, hgrants⟩
  rintro rfl
  exact hholds hfree

end Capabilities

-- ============================================================================
-- One recomputation
-- ============================================================================

/-- A recomputation for a user, with what its calls run into. -/
structure Recomputation where
  userId : Uuid
  faults : List (Option Failure) := []

/-- Nothing grants the user the role any more, none of its rows has a twin that
    hides it from the recomputation, and the profile that lists it is replaced. -/
def Ungranted (ctx : Context) (s : RoleStore) (x : Recomputation) (roleId : Uuid) : Prop :=
  (∀ e ∈ granted s.base.db ctx.tenantCode x.userId, e.roleId ≠ roleId) ∧
  (granted s.base.db ctx.tenantCode x.userId = ∅ ∨
    RoleRowsDistinct s.base.db ctx.tenantCode x.userId roleId) ∧
  (Uncached s ctx.tenantCode x.userId roleId ∨
    ¬UserAuthorizationCacheService.ProfileWriteFails ctx
      (projectEffectiveRoles ctx x.userId ⟨s.base, x.faults⟩).2)

/-- Recomputations for the tenant's users, one after another, each of which returns. -/
def recomputations (ctx : Context) : System RoleStore Recomputation where
  init _ := True
  step s x :=
    match onBase (recomputeUserEffectiveRoles ctx ctx.tenantCode x.userId) ⟨s, x.faults⟩ with
    | (.ok _, w) => some w.state
    | (.error _, _) => none

section Recompute

variable {ctx : Context} {s t : RoleStore} {x : Recomputation}

theorem recomputation_ok (h : (recomputations ctx).step s x = some t) :
    ∃ (result : RecomputeResult) (v : World Store Failure),
      recomputeUserEffectiveRoles ctx ctx.tenantCode x.userId ⟨s.base, x.faults⟩ =
        (.ok result, v) ∧ t = { s with base := v.state } := by
  simp only [recomputations] at h
  split at h
  next w hrun =>
    obtain ⟨v, hrecompute, rfl⟩ := Faulty.zoom_ok.mp hrun
    exact ⟨_, v, hrecompute, (Option.some.inj h).symm⟩
  · cases h

/-- What is granted to anybody, the other users' rows and profiles, and the roles
    stay as they are. -/
theorem recomputation_frame (h : (recomputations ctx).step s x = some t) :
    (∀ userId, granted t.base.db ctx.tenantCode userId =
      granted s.base.db ctx.tenantCode userId) ∧
    OthersKept ctx.tenantCode x.userId s.base.db t.base.db ∧
    (∀ userId, userId ≠ x.userId → t.base.profiles (ctx.tenantCode, userId) =
      s.base.profiles (ctx.tenantCode, userId)) ∧
    t.roles = s.roles := by
  obtain ⟨result, v, hrun, rfl⟩ := recomputation_ok h
  obtain ⟨-, hothers, hprofiles, -⟩ := recompute_effect hrun
  obtain ⟨w₁, w₂, diff, profile, hstate, -, hpersist, -, hcache, -, -⟩ := recompute_projects hrun
  refine ⟨fun userId => ?_, hothers, fun userId hother => ?_, rfl⟩
  · have hdb := (UserAuthorizationCacheService.syncUserCache_explicit hcache).1
    show granted v.state.db _ _ = _
    rw [hdb, (persistRoles_frame hpersist).1.granted, hstate]
  · exact hprofiles _ fun hkey => hother (Prod.mk.inj hkey).2

/-- A new profile lists what is granted. -/
theorem uncached_iff {v₁ v : World Store Failure} {profile : UserAuthorizationProfile}
    {userId : Uuid}
    (h : UserAuthorizationCacheService.syncUserCache ctx ctx.tenantCode userId
      (some ((targetsOf s.base.db ctx.tenantCode userId).map memoryRole)) v₁ = (.ok profile, v))
    (hbefore : v₁.state.profiles = s.base.profiles) (roleId : Uuid) :
    Uncached { s with base := v.state } ctx.tenantCode userId roleId ↔
      (UserAuthorizationCacheService.ProfileWriteFails ctx v₁ ∧
        Uncached s ctx.tenantCode userId roleId) ∨
      (¬UserAuthorizationCacheService.ProfileWriteFails ctx v₁ ∧
        ∀ e ∈ granted s.base.db ctx.tenantCode userId, e.roleId ≠ roleId) := by
  rcases UserAuthorizationCacheService.syncUserCache_profile h with
    ⟨hfails, hsame⟩ | ⟨hwrites, version, hnew⟩
  · rw [hbefore] at hsame
    simp only [Uncached, hsame, hfails, true_and, not_true_eq_false, false_and, or_false]
  · have hlisted : listed ((targetsOf s.base.db ctx.tenantCode userId).map memoryRole) =
        granted s.base.db ctx.tenantCode userId := by
      rw [listed_memoryRoles, targets_eq_granted]
    simp only [Uncached, hnew, Option.some.injEq, hwrites, false_and, false_or,
      not_false_eq_true, true_and, forall_eq', ← hlisted]
    constructor
    · rintro hroles e ⟨role, hrole, rfl⟩
      exact hroles role hrole
    · exact fun hroles role hrole => hroles _ ⟨role, hrole, rfl⟩

/-- A recomputation rids its user of a role exactly when nothing grants it. -/
theorem grantsNothing_iff_ungranted {roleId : Uuid}
    (h : (recomputations ctx).step s x = some t) :
    GrantsNothing ctx t x.userId roleId ↔ Ungranted ctx s x roleId := by
  obtain ⟨result, v, hrun, rfl⟩ := recomputation_ok h
  obtain ⟨w₁, w₂, diff, profile, hstate, -, hpersist, hproject, hcache, -, -⟩ :=
    recompute_projects hrun
  have hdb := (UserAuthorizationCacheService.syncUserCache_explicit hcache).1
  have hbefore := (persistRoles_frame hpersist).1.profiles
  rw [hstate] at hbefore
  have hrows := persistRoles_roleFree_iff hpersist roleId
  rw [hstate, targets_nil_iff, ← hdb] at hrows
  have htargets : (∀ e ∈ (targetsOf s.base.db ctx.tenantCode x.userId).map
      UserEffectiveRoleRepository.syncedEntry, e.roleId ≠ roleId) ↔
      ∀ e ∈ granted s.base.db ctx.tenantCode x.userId, e.roleId ≠ roleId := by
    rw [← targets_eq_granted]
    rfl
  rw [htargets] at hrows
  have hprofile := uncached_iff hcache hbefore roleId
  have hempty : granted s.base.db ctx.tenantCode x.userId = ∅ →
      ∀ e ∈ granted s.base.db ctx.tenantCode x.userId, e.roleId ≠ roleId := by
    intro hnone e he
    rw [hnone] at he
    exact absurd he (Set.notMem_empty e)
  rw [grantsNothing_iff, Ungranted, hproject]
  show RoleFree v.state.db _ _ _ ∧ _ ↔ _
  rw [hrows, hprofile]
  constructor
  · rintro ⟨hpersisted, hcached⟩
    have hnone := hpersisted.elim hempty And.left
    exact ⟨hnone, hpersisted.imp_right And.right, hcached.imp And.right And.left⟩
  · rintro ⟨hnone, hpersisted, hcached⟩
    refine ⟨hpersisted.imp_right fun hdistinct => ⟨hnone, hdistinct⟩, ?_⟩
    by_cases hfails : UserAuthorizationCacheService.ProfileWriteFails ctx w₂
    · exact .inl ⟨hfails, hcached.resolve_right (not_not_intro hfails)⟩
    · exact .inr ⟨hfails, hnone⟩

/-- The property of one user is not touched by the recomputations for others. -/
theorem grantsNothing_other {userId roleId : Uuid} (hother : userId ≠ x.userId)
    (h : (recomputations ctx).step s x = some t) :
    GrantsNothing ctx t userId roleId ↔ GrantsNothing ctx s userId roleId := by
  obtain ⟨-, hothers, hprofiles, -⟩ := recomputation_frame h
  have hrows : ∀ r, r ∈ effectiveRolesOf t.base.db ctx.tenantCode userId ↔
      r ∈ effectiveRolesOf s.base.db ctx.tenantCode userId :=
    hothers.effectiveRolesOf fun hsame => hother hsame.2
  rw [grantsNothing_iff, grantsNothing_iff, RoleFree, RoleFree, Uncached, Uncached,
    hprofiles userId hother]
  refine and_congr_left fun _ => forall_congr' fun r => ?_
  rw [hrows r]

end Recompute

-- ============================================================================
-- Recomputations for every user
-- ============================================================================

/-- Before the recomputation, no INACTIVE role of the tenant is granted. -/
def UngrantedInactive (ctx : Context) (s : RoleStore) (x : Recomputation) : Prop :=
  ∀ role ∈ s.roles.rows, role.row.tenantCode = ctx.tenantCode → role.row.status = .INACTIVE →
    Ungranted ctx s x role.id

section Runs

variable {ctx : Context} {s t : RoleStore} {x : Recomputation} {steps : List Recomputation}

theorem inactiveGrantNothing_iff (h : (recomputations ctx).step s x = some t) :
    InactiveGrantNothing ctx t x.userId ↔ UngrantedInactive ctx s x := by
  rw [InactiveGrantNothing, UngrantedInactive, (recomputation_frame h).2.2.2]
  exact forall_congr' fun role => forall_congr' fun _ => forall_congr' fun _ =>
    forall_congr' fun _ => grantsNothing_iff_ungranted h

/-- Recomputations for others leave a user's roles alone. -/
theorem inactiveGrantNothing_others {userId : Uuid}
    (hothers : ∀ y ∈ steps, y.userId ≠ userId)
    (h : (recomputations ctx).execute s steps = some t) :
    InactiveGrantNothing ctx t userId ↔ InactiveGrantNothing ctx s userId := by
  induction steps generalizing s with
  | nil =>
    obtain rfl := Option.some.inj h
    exact Iff.rfl
  | cons y steps ih =>
    obtain ⟨u, hu, hrest⟩ := System.execute_cons.mp h
    rw [ih (fun z hz => hothers z (List.mem_cons_of_mem _ hz)) hrest]
    have hother : userId ≠ y.userId := Ne.symm (hothers y List.mem_cons_self)
    rw [InactiveGrantNothing, InactiveGrantNothing, (recomputation_frame hu).2.2.2]
    exact forall_congr' fun role => forall_congr' fun _ => forall_congr' fun _ =>
      forall_congr' fun _ => grantsNothing_other hother hu

/-- A user's last recomputation of the run. -/
theorem exists_last {userId : Uuid} (h : ∃ x ∈ steps, x.userId = userId) :
    ∃ before x after, steps = before ++ x :: after ∧ x.userId = userId ∧
      ∀ y ∈ after, y.userId ≠ userId := by
  induction steps with
  | nil =>
    obtain ⟨x, hx, -⟩ := h
    exact absurd hx List.not_mem_nil
  | cons y steps ih =>
    by_cases hlater : ∃ x ∈ steps, x.userId = userId
    · obtain ⟨before, x, after, rfl, hx⟩ := ih hlater
      exact ⟨y :: before, x, after, rfl, hx⟩
    · push Not at hlater
      obtain ⟨x, hx, hsame⟩ := h
      rcases List.mem_cons.mp hx with rfl | hmem
      · exact ⟨[], x, steps, rfl, hsame, hlater⟩
      · exact absurd hsame (hlater x hmem)

/-- After recomputations for any users, the INACTIVE roles grant these users nothing
    exactly when each user's last recomputation found none granted. -/
theorem inactive_roles_grant_nothing_iff
    (h : (recomputations ctx).execute s steps = some t) :
    (∀ x ∈ steps, InactiveGrantNothing ctx t x.userId) ↔
      ∀ before x after, steps = before ++ x :: after → (∀ y ∈ after, y.userId ≠ x.userId) →
        ∀ u, (recomputations ctx).execute s before = some u → UngrantedInactive ctx u x := by
  have hlast : ∀ before x after, steps = before ++ x :: after →
      (∀ y ∈ after, y.userId ≠ x.userId) → ∃ u, (recomputations ctx).execute s before = some u ∧
        (InactiveGrantNothing ctx t x.userId ↔ UngrantedInactive ctx u x) := by
    rintro before x after rfl hothers
    obtain ⟨u, hu, hrest⟩ := System.execute_append.mp h
    obtain ⟨v, hv, hafter⟩ := System.execute_cons.mp hrest
    exact ⟨u, hu, (inactiveGrantNothing_others hothers hafter).trans (inactiveGrantNothing_iff hv)⟩
  constructor
  · intro hall before x after hsteps hothers u hu
    obtain ⟨u', hu', hiff⟩ := hlast before x after hsteps hothers
    obtain rfl := Option.some.inj (hu.symm.trans hu')
    exact hiff.mp (hall x (hsteps ▸ List.mem_append_right _ List.mem_cons_self))
  · intro hall x hx
    obtain ⟨before, y, after, hsteps, hsame, hothers⟩ := exists_last ⟨x, hx, rfl⟩
    rw [← hsame] at hothers ⊢
    obtain ⟨u, hu, hiff⟩ := hlast before y after hsteps hothers
    exact hiff.mpr (hall before y after hsteps hothers u hu)

end Runs

-- ============================================================================
-- A role that is switched off
-- ============================================================================

def reviewer : StoredRole where
  row := { id := sampleRoleId, tenantCode := "acme", name := "Reviewer" }
  permissions := .single ⟨"leave.view", false⟩

/-- The user is a member of the group that has the role. -/
def reviewerStore : RoleStore where
  base := { db := sampleDatabase true .empty }
  roles := ⟨[reviewer], List.nodup_singleton _⟩

def acmeRoles : RoleContext where
  tenantCode := "acme"
  graph := ⟨.empty⟩

def deactivateReviewer : RoleService RoleOutcome :=
  RoleApplicationService.deactivate acmeRoles sampleRoleId
    { confirmed := some true, version := some 1 }

def isRole : RoleOutcome → Bool
  | .role _ _ => true
  | .confirmationRequired _ => false

/-- The store once the role has been deactivated. -/
def deactivatedStore : RoleStore := (deactivateReviewer ⟨reviewerStore, []⟩).2.state

theorem inactive_roles_grant_nothing_iff_sample :
    ∃ t, (recomputations acme).execute deactivatedStore [⟨sampleUserId, []⟩] = some t ∧
      ((∀ x ∈ [(⟨sampleUserId, []⟩ : Recomputation)], InactiveGrantNothing acme t x.userId) ↔
        ∀ before x after, [⟨sampleUserId, []⟩] = before ++ x :: after →
          (∀ y ∈ after, y.userId ≠ x.userId) →
            ∀ u, (recomputations acme).execute deactivatedStore before = some u →
              UngrantedInactive acme u x) := by
  have hruns : ((recomputations acme).execute deactivatedStore [⟨sampleUserId, []⟩]).isSome =
      true := by
    decide +kernel
  obtain ⟨t, ht⟩ := Option.isSome_iff_exists.mp hruns
  exact ⟨t, ht, inactive_roles_grant_nothing_iff ht⟩

/-- The deactivation commits, and the recomputation stores the role's grant. -/
theorem not_inactive_roles_grant_nothing :
    ∃ (entity : RoleEntity) (counts : Option RoleCounts) (w : World RoleStore RoleError)
      (t : RoleStore),
      deactivateReviewer ⟨reviewerStore, []⟩ = (.ok (.role entity counts), w) ∧
        (recomputations acme).execute w.state [⟨sampleUserId, []⟩] = some t ∧
        ¬InactiveGrantNothing acme t sampleUserId := by
  have hcommits : (deactivateReviewer ⟨reviewerStore, []⟩).1.toOption.any isRole = true := by
    decide +kernel
  have hruns : ((recomputations acme).execute deactivatedStore [⟨sampleUserId, []⟩]).any (fun t =>
      t.roles.rows.any (fun role => role.row.tenantCode = "acme" ∧ role.id = sampleRoleId ∧
        role.row.status = .INACTIVE) ∧
      (effectiveRolesOf t.base.db "acme" sampleUserId).any fun r => r.2.roleId = sampleRoleId) =
        true := by
    decide +kernel
  obtain ⟨t, ht, hstate⟩ := (Option.any_eq_true _ _).mp hruns
  obtain ⟨hroles, hrows⟩ := of_decide_eq_true hstate
  obtain ⟨role, hrole, hinactive⟩ := List.any_eq_true.mp hroles
  obtain ⟨htenant, hid, hstatus⟩ := of_decide_eq_true hinactive
  obtain ⟨r, hr, hgranted⟩ := List.any_eq_true.mp hrows
  have hnot : ¬InactiveGrantNothing acme t sampleUserId := by
    intro hnothing
    refine (hnothing role hrole htenant hstatus).persisted r hr ?_
    rw [hid]
    exact of_decide_eq_true hgranted
  rcases hdeactivate : deactivateReviewer ⟨reviewerStore, []⟩ with ⟨outcome, w⟩
  rw [deactivatedStore, hdeactivate] at ht
  rw [hdeactivate] at hcommits
  rcases outcome with _ | ⟨entity, counts⟩ | _
  · exact absurd hcommits Bool.false_ne_true
  · exact ⟨entity, counts, w, t, rfl, ht, hnot⟩
  · exact absurd hcommits Bool.false_ne_true

/-- Where the cache has lost the entry, the permission comes from the database. -/
example : (((recomputations acme).execute deactivatedStore [⟨sampleUserId, []⟩]).any fun t =>
    match (getBootstrapCapabilities acme sampleUserId
      ⟨{ t with cachedRoles := fun _ => none }, []⟩).1 with
    | .ok response => response.permissions = ["leave.view"]
    | .error _ => false) = true := by
  decide +kernel

end AccessService.Authorization
