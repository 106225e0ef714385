/-
  AccessService.Authorization.BootstrapCapabilities

  What the capabilities of a user have to do with the cache.  A role that the cache
  serves and one that is loaded from the database count in two shapes, and the two
  agree but for the empty string: the cached shape leaves out an empty name and an
  empty code, the stored one keeps them.  An error of the cache counts as a miss.
-/

import AccessService.Authorization.BootstrapAuthorization

namespace AccessService.Authorization

open AccessService.Js AccessService.Lib AccessService.Pg AccessService.Persistence
open AccessService.Roles AccessService.UserGroups
open BootstrapAuthorizationService

/-- Some row of the role has the code. -/
def HasCode (role : StoredRole) (code : String) : Prop :=
  ∃ p ∈ role.permissions.rows, p.permissionCode = code

/-- Every cached role of the tenant is stored, with the same name and the same codes. -/
def CacheAgrees (s : RoleStore) (tenantCode : String) : Prop :=
  ∀ roleId entry, s.cachedRoles (tenantCode, roleId) = some entry →
    ∃ role, s.role tenantCode roleId = some role ∧ entry.name = role.row.name ∧
      ∀ code, (∃ p ∈ entry.permissions, p.permissionCode = code) ↔ HasCode role code

/-- The first dotted component, which may be empty. -/
def firstComponent (code : String) : String := String.ofList (code.toList.takeWhile (· ≠ '.'))

theorem moduleOf_eq_some {code component : String} :
    moduleOf code = some component ↔ component ≠ "" ∧ firstComponent code = component := by
  rw [moduleOf, Option.filter_eq_some_iff, Option.some_inj, decide_eq_true_eq]
  exact and_comm.trans Iff.rfl

theorem mem_deriveModules {permissions : List String} {component : String} :
    component ∈ deriveModulesFromPermissions permissions ↔
      component ≠ "" ∧ ∃ code ∈ permissions, firstComponent code = component := by
  simp only [deriveModulesFromPermissions, mem_setOf, List.mem_filterMap, moduleOf_eq_some]
  constructor
  · rintro ⟨code, hcode, hne, hfirst⟩
    exact ⟨hne, code, hcode, hfirst⟩
  · rintro ⟨hne, code, hcode, hfirst⟩
    exact ⟨code, hcode, hne, hfirst⟩

-- ============================================================================
-- One lookup
-- ============================================================================

/-- A role of the profile, with the error that the cache answers with, if it does. -/
structure RoleLookup where
  role : EffectiveUserRole
  cacheError : Option Failure := none

namespace RoleLookup

variable (s : RoleStore) (tenantCode : String)

/-- The cache has the role, and says so. -/
def Hit (x : RoleLookup) : Prop :=
  x.cacheError = none ∧ (s.cachedRoles (tenantCode, x.role.roleId)).isSome

instance (x : RoleLookup) : Decidable (x.Hit s tenantCode) := inferInstanceAs (Decidable (_ ∧ _))

/-- What the calls of the lookup run into: there is a second one unless the first hits. -/
def faults (x : RoleLookup) : List (Option Failure) :=
  if x.Hit s tenantCode then [none] else [x.cacheError, none]

def contribution (x : RoleLookup) : List RoleContribution :=
  if x.Hit s tenantCode then
    (s.cachedRoles (tenantCode, x.role.roleId)).toList.map cachedContribution
  else (s.role tenantCode x.role.roleId).toList.map storedContribution

/-- The role that is looked up has the property; a hit does not show an empty string. -/
def Shows (x : RoleLookup) (P : StoredRole → String → Prop) (text : String) : Prop :=
  ∃ role, s.role tenantCode x.role.roleId = some role ∧ P role text ∧
    (text = "" → ¬x.Hit s tenantCode)

end RoleLookup

section Lookup

variable {ctx : Context} {s : RoleStore} {rest : List (Option Failure)} {x : RoleLookup}

theorem roleContribution_run :
    roleContribution ctx x.role ⟨s, x.faults s ctx.tenantCode ++ rest⟩ =
      (.ok (x.contribution s ctx.tenantCode), ⟨s, rest⟩) := by
  obtain ⟨role, cacheError⟩ := x
  rcases hcached : s.cachedRoles (ctx.tenantCode, role.roleId) with _ | entry
  · have hmiss : ¬(RoleLookup.mk role cacheError).Hit s ctx.tenantCode := by
      rintro ⟨-, hsome⟩
      simp [hcached] at hsome
    rw [RoleLookup.faults, RoleLookup.contribution, if_neg hmiss, if_neg hmiss]
    cases cacheError with
    | none =>
      have hget : Faulty.tryCatch (RoleCacheService.getRole ctx.tenantCode role.roleId)
          (fun _ => pure none) (⟨s, [none, none] ++ rest⟩ : World RoleStore Failure) =
            (.ok none, ⟨s, none :: rest⟩) := by
        rw [← hcached]
        rfl
      exact (Faulty.bind_runs hget).trans rfl
    | some e => rfl
  · cases cacheError with
    | none =>
      have hhit : (RoleLookup.mk role none).Hit s ctx.tenantCode := ⟨rfl, by simp [hcached]⟩
      rw [RoleLookup.faults, RoleLookup.contribution, if_pos hhit, if_pos hhit, hcached]
      have hget : Faulty.tryCatch (RoleCacheService.getRole ctx.tenantCode role.roleId)
          (fun _ => pure none) (⟨s, [none] ++ rest⟩ : World RoleStore Failure) =
            (.ok (some entry), ⟨s, rest⟩) := by
        rw [← hcached]
        rfl
      exact (Faulty.bind_runs hget).trans rfl
    | some e =>
      have hmiss : ¬(RoleLookup.mk role (some e)).Hit s ctx.tenantCode := nofun
      rw [RoleLookup.faults, RoleLookup.contribution, if_neg hmiss, if_neg hmiss]
      rfl

/-- The loop over the profile's roles. -/
theorem collect_contributions_run {lookups : List RoleLookup} :
    Faulty.collect (roleContribution ctx) (lookups.map (·.role))
        ⟨s, lookups.flatMap (·.faults s ctx.tenantCode) ++ rest⟩ =
      (.ok (lookups.flatMap (·.contribution s ctx.tenantCode)), ⟨s, rest⟩) := by
  induction lookups with
  | nil => rfl
  | cons x lookups ih =>
    rw [List.map_cons, List.flatMap_cons, List.flatMap_cons, List.append_assoc, Faulty.collect,
      Faulty.bind_runs roleContribution_run, Faulty.bind_runs ih]
    rfl

theorem hit_role (hcache : CacheAgrees s ctx.tenantCode) (hhit : x.Hit s ctx.tenantCode) :
    ∃ entry role, s.cachedRoles (ctx.tenantCode, x.role.roleId) = some entry ∧
      s.role ctx.tenantCode x.role.roleId = some role ∧ entry.name = role.row.name ∧
      ∀ code, (∃ p ∈ entry.permissions, p.permissionCode = code) ↔ HasCode role code := by
  obtain ⟨entry, hentry⟩ := Option.isSome_iff_exists.mp hhit.2
  obtain ⟨role, hrole, hname, hcodes⟩ := hcache _ entry hentry
  exact ⟨entry, role, hentry, hrole, hname, hcodes⟩

theorem mem_cachedContribution_codes {entry : CachedRoleData} {code : String} :
    code ∈ (cachedContribution entry).permissionCodes ↔
      (∃ p ∈ entry.permissions, p.permissionCode = code) ∧ code ≠ "" := by
  rw [cachedContribution, List.mem_filter, List.mem_map, decide_eq_true_eq]

theorem mem_cachedContribution_names {entry : CachedRoleData} {name : String} :
    name ∈ (cachedContribution entry).names ↔ entry.name = name ∧ name ≠ "" := by
  rw [cachedContribution, List.mem_filter, List.mem_singleton, decide_eq_true_eq, eq_comm]

theorem mem_storedContribution_codes {role : StoredRole} {code : String} :
    code ∈ (storedContribution role).permissionCodes ↔ HasCode role code := List.mem_map

theorem mem_storedContribution_names {role : StoredRole} {name : String} :
    name ∈ (storedContribution role).names ↔ role.row.name = name :=
  List.mem_singleton.trans eq_comm

/-- What a lookup contributes, for a property that both shapes of a role show: the
    stored one as it is, the cached one but for the empty string. -/
theorem contribution_shows (of : RoleContribution → List String) {P : StoredRole → String → Prop}
    (hstored : ∀ role text, text ∈ of (storedContribution role) ↔ P role text)
    (hcached : ∀ entry role text, s.cachedRoles (ctx.tenantCode, x.role.roleId) = some entry →
      s.role ctx.tenantCode x.role.roleId = some role →
        (text ∈ of (cachedContribution entry) ↔ P role text ∧ text ≠ ""))
    (hcache : CacheAgrees s ctx.tenantCode) (text : String) :
    (∃ c ∈ x.contribution s ctx.tenantCode, text ∈ of c) ↔ x.Shows s ctx.tenantCode P text := by
  by_cases hhit : x.Hit s ctx.tenantCode
  · obtain ⟨entry, hentry⟩ := Option.isSome_iff_exists.mp hhit.2
    obtain ⟨role, hrole, -⟩ := hcache _ entry hentry
    rw [RoleLookup.contribution, if_pos hhit, hentry]
    constructor
    · rintro ⟨c, hmem, htext⟩
      obtain rfl := List.mem_singleton.mp hmem
      obtain ⟨hP, hne⟩ := (hcached entry role text hentry hrole).mp htext
      exact ⟨role, hrole, hP, fun hempty => absurd hempty hne⟩
    · rintro ⟨role', hrole', hP, hempty⟩
      obtain rfl := Option.some.inj (hrole.symm.trans hrole')
      exact ⟨_, List.mem_singleton_self _, (hcached entry role text hentry hrole).mpr
        ⟨hP, fun h => hempty h hhit⟩⟩
  · rw [RoleLookup.contribution, if_neg hhit]
    constructor
    · rintro ⟨c, hmem, htext⟩
      obtain ⟨role, hrole, rfl⟩ := List.mem_map.mp hmem
      exact ⟨role, Option.mem_toList.mp hrole, (hstored role text).mp htext, fun _ => hhit⟩
    · rintro ⟨role, hrole, hP, -⟩
      exact ⟨_, List.mem_map_of_mem (Option.mem_toList.mpr hrole), (hstored role text).mpr hP⟩

theorem contribution_codes (hcache : CacheAgrees s ctx.tenantCode) (code : String) :
    (∃ c ∈ x.contribution s ctx.tenantCode, code ∈ c.permissionCodes) ↔
      x.Shows s ctx.tenantCode HasCode code := by
  refine contribution_shows (·.permissionCodes) (fun _ _ => mem_storedContribution_codes)
    (fun entry role text hentry hrole => ?_) hcache code
  obtain ⟨role', hrole', -, hcodes⟩ := hcache _ entry hentry
  obtain rfl := Option.some.inj (hrole.symm.trans hrole')
  rw [mem_cachedContribution_codes, hcodes]

theorem contribution_names (hcache : CacheAgrees s ctx.tenantCode) (name : String) :
    (∃ c ∈ x.contribution s ctx.tenantCode, name ∈ c.names) ↔
      x.Shows s ctx.tenantCode (fun role name => role.row.name = name) name := by
  refine contribution_shows (·.names) (fun _ _ => mem_storedContribution_names)
    (fun entry role text hentry hrole => ?_) hcache name
  obtain ⟨role', hrole', hname, -⟩ := hcache _ entry hentry
  obtain rfl := Option.some.inj (hrole.symm.trans hrole')
  rw [mem_cachedContribution_names, hname]

end Lookup

-- ============================================================================
-- The whole answer
-- ============================================================================

/-- The answer is the union over the roles that are looked up and stored: their
    codes, their names, and the first component of each code unless it is empty. -/
structure Collects (s : RoleStore) (tenantCode : String) (lookups : List RoleLookup)
    (response : BootstrapCapabilitiesResponse) : Prop where
  permissions : ∀ code, code ∈ response.permissions ↔
    ∃ x ∈ lookups, x.Shows s tenantCode HasCode code
  modules : ∀ component, component ∈ response.modules ↔ component ≠ "" ∧
    ∃ x ∈ lookups, ∃ role, s.role tenantCode x.role.roleId = some role ∧
      ∃ code, HasCode role code ∧ firstComponent code = component
  roles : ∀ name, name ∈ response.roles ↔
    ∃ x ∈ lookups, x.Shows s tenantCode (fun role name => role.row.name = name) name

/-- The answer is the union, as it stands. -/
structure IsUnion (s : RoleStore) (tenantCode : String) (roles : List EffectiveUserRole)
    (response : BootstrapCapabilitiesResponse) : Prop where
  permissions : ∀ code, code ∈ response.permissions ↔
    ∃ a ∈ roles, ∃ role, s.role tenantCode a.roleId = some role ∧ HasCode role code
  modules : ∀ component, component ∈ response.modules ↔
    ∃ a ∈ roles, ∃ role, s.role tenantCode a.roleId = some role ∧
      ∃ code, HasCode role code ∧ firstComponent code = component
  roles : ∀ name, name ∈ response.roles ↔
    ∃ a ∈ roles, ∃ role, s.role tenantCode a.roleId = some role ∧ role.row.name = name

section Answer

variable {ctx : Context} {s : RoleStore} {lookups : List RoleLookup}

theorem mem_flatMap_contributions {of : RoleContribution → List String} {text : String} :
    text ∈ setOf ((lookups.flatMap (·.contribution s ctx.tenantCode)).flatMap of) ↔
      ∃ x ∈ lookups, ∃ c ∈ x.contribution s ctx.tenantCode, text ∈ of c := by
  rw [mem_setOf, List.flatMap_assoc, List.mem_flatMap]
  simp only [List.mem_flatMap]

/-- What the loop's contributions add up to. -/
theorem collects_of_contributions (hcache : CacheAgrees s ctx.tenantCode) (version : Nat) :
    Collects s ctx.tenantCode lookups
      (let contributions := lookups.flatMap (·.contribution s ctx.tenantCode)
      let permissions := setOf (contributions.flatMap (·.permissionCodes))
      ⟨version, permissions, deriveModulesFromPermissions permissions,
        setOf (contributions.flatMap (·.names))⟩) where
  permissions code := by
    simp only [mem_flatMap_contributions, contribution_codes hcache]
  modules component := by
    simp only [mem_deriveModules, mem_flatMap_contributions, contribution_codes hcache]
    refine and_congr_right fun hne => ?_
    constructor
    · rintro ⟨code, ⟨x, hx, role, hrole, hcode, -⟩, hfirst⟩
      exact ⟨x, hx, role, hrole, code, hcode, hfirst⟩
    · rintro ⟨x, hx, role, hrole, code, hcode, hfirst⟩
      -- The empty code has no component that counts.
      refine ⟨code, ⟨x, hx, role, hrole, hcode, ?_⟩, hfirst⟩
      rintro rfl
      exact absurd hfirst.symm hne
  roles name := by
    simp only [mem_flatMap_contributions, contribution_names hcache]

theorem exists_lookup {Q : EffectiveUserRole → Prop} :
    (∃ a ∈ lookups.map (·.role), Q a) ↔ ∃ x ∈ lookups, Q x.role := by
  simp only [List.mem_map, exists_exists_and_eq_and]

theorem shows_iff {x : RoleLookup} {P : StoredRole → String → Prop} {text : String}
    (hne : ∀ role, s.role ctx.tenantCode x.role.roleId = some role → P role text → text ≠ "") :
    x.Shows s ctx.tenantCode P text ↔
      ∃ role, s.role ctx.tenantCode x.role.roleId = some role ∧ P role text := by
  constructor
  · rintro ⟨role, hrole, hP, -⟩
    exact ⟨role, hrole, hP⟩
  · rintro ⟨role, hrole, hP⟩
    exact ⟨role, hrole, hP, fun hempty => absurd hempty (hne role hrole hP)⟩

/-- The role shows no empty string: not its name, and no code or first component. -/
def NoEmpty (role : StoredRole) : Prop :=
  role.row.name ≠ "" ∧ ∀ code, HasCode role code → firstComponent code ≠ ""

/-- The answer does not depend on the cache where the profile's roles show no empty
    string. -/
theorem Collects.isUnion {response : BootstrapCapabilitiesResponse}
    (h : Collects s ctx.tenantCode lookups response)
    (hnonempty : ∀ x ∈ lookups, ∀ role, s.role ctx.tenantCode x.role.roleId = some role →
      NoEmpty role) :
    IsUnion s ctx.tenantCode (lookups.map (·.role)) response where
  permissions code := by
    rw [h.permissions, exists_lookup]
    refine exists_congr fun x => and_congr_right fun hx => shows_iff fun role hrole hcode => ?_
    rintro rfl
    exact (hnonempty x hx role hrole).2 "" hcode rfl
  modules component := by
    rw [h.modules, exists_lookup, and_iff_right_iff_imp]
    rintro ⟨x, hx, role, hrole, code, hcode, rfl⟩
    exact (hnonempty x hx role hrole).2 code hcode
  roles name := by
    rw [h.roles, exists_lookup]
    refine exists_congr fun x => and_congr_right fun hx => shows_iff fun role hrole hname => ?_
    rw [← hname]
    exact (hnonempty x hx role hrole).1

variable {userId : Uuid} {w w₁ : World RoleStore Failure} {profile : UserAuthorizationProfile}
  {rest : List (Option Failure)}

/-- Whatever each lookup of the profile's roles meets, the request answers with the
    union, and with an empty string in it only where the database has shown it. -/
theorem getBootstrapCapabilities_collects (hcache : CacheAgrees w.state ctx.tenantCode)
    (hprofile : onBase (UserAuthorizationCacheService.getUserAuthorizationProfile ctx
      ctx.tenantCode userId) w = (.ok profile, w₁))
    (hroles : lookups.map (·.role) = profile.roles)
    (hfaults : w₁.faults = lookups.flatMap (·.faults w.state ctx.tenantCode) ++ rest) :
    ∃ response,
      getBootstrapCapabilities ctx userId w = (.ok response, { w₁ with faults := rest }) ∧
        Collects w.state ctx.tenantCode lookups response ∧
        ((∀ a ∈ profile.roles, ∀ role, w.state.role ctx.tenantCode a.roleId = some role →
          NoEmpty role) → IsUnion w.state ctx.tenantCode profile.roles response) := by
  suffices hanswer : ∃ response,
      getBootstrapCapabilities ctx userId w = (.ok response, { w₁ with faults := rest }) ∧
        Collects w.state ctx.tenantCode lookups response by
    obtain ⟨response, hrun, hcollects⟩ := hanswer
    refine ⟨response, hrun, hcollects, fun hnonempty => ?_⟩
    rw [← hroles] at hnonempty ⊢
    exact hcollects.isUnion fun x hx => hnonempty x.role (List.mem_map_of_mem hx)
  have hrun : getBootstrapCapabilities ctx userId w = _ := Faulty.bind_runs hprofile
  rw [hrun]
  by_cases hlength : profile.roles.length = 0
  · have hnil : lookups = [] := by
      rw [← hroles, List.length_map] at hlength
      exact List.eq_nil_of_length_eq_zero hlength
    subst hnil
    rw [if_pos hlength]
    refine ⟨_, Prod.ext rfl ?_, collects_of_contributions hcache _⟩
    rw [← show w₁.faults = rest from hfaults]
    rfl
  · rw [if_neg hlength]
    -- The profile's read leaves the roles and their cache entries alone.
    obtain ⟨v, -, rfl⟩ := Faulty.zoom_ok.mp hprofile
    have hloop : Faulty.collect (roleContribution ctx) profile.roles
        ⟨{ w.state with base := v.state }, v.faults⟩ =
          (.ok (lookups.flatMap (·.contribution w.state ctx.tenantCode)),
            ⟨{ w.state with base := v.state }, rest⟩) := by
      rw [← hroles, show v.faults = _ from hfaults]
      exact collect_contributions_run
    rw [Faulty.bind_runs hloop]
    exact ⟨_, rfl, collects_of_contributions hcache profile.version⟩

end Answer

-- ============================================================================
-- One role in the cache
-- ============================================================================

def namedRole (name : String) : StoredRole where
  row := { id := sampleRoleId, tenantCode := "acme", name := name }
  permissions := .single ⟨"leave.view", false⟩

def namedEntry (name : String) : CachedRoleData where
  roleId := sampleRoleId
  tenantCode := "acme"
  name := name
  type := .CUSTOM
  systemRoleKey := none
  status := .ACTIVE
  version := 1
  permissions := [⟨"leave.view", false⟩]

def redisDown : Failure := ⟨"Error", "Connection is closed."⟩

def sampleAssignment : EffectiveUserRole := ⟨sampleRoleId, sampleGroupId, .SELF, none⟩

/-- The user's profile is cached, and so is its one role. -/
def namedStore (name : String) : RoleStore where
  base := {
    db := sampleDatabase true .empty
    profiles := fun key =>
      if key = ("acme", sampleUserId) then some ⟨3, [sampleAssignment]⟩ else none }
  roles := ⟨[namedRole name], List.nodup_singleton _⟩
  cachedRoles := fun key => if key = ("acme", sampleRoleId) then some (namedEntry name) else none

theorem namedStore_agrees (name : String) : CacheAgrees (namedStore name) "acme" := by
  intro roleId entry hentry
  obtain ⟨hkey, hsame⟩ := Option.ite_none_right_eq_some.mp hentry
  cases hkey
  cases hsame
  exact ⟨namedRole name, rfl, rfl, fun _ => Iff.rfl⟩

theorem getBootstrapCapabilities_collects_sample :
    ∃ response,
      getBootstrapCapabilities acme sampleUserId
          ⟨namedStore "Reviewer", [none, some redisDown, none]⟩ =
        (.ok response, ⟨namedStore "Reviewer", []⟩) ∧
      IsUnion (namedStore "Reviewer") "acme" [sampleAssignment] response := by
  have hprofile : onBase (UserAuthorizationCacheService.getUserAuthorizationProfile acme "acme"
      sampleUserId) ⟨namedStore "Reviewer", [none, some redisDown, none]⟩ =
        (.ok ⟨3, [sampleAssignment]⟩, ⟨namedStore "Reviewer", [some redisDown, none]⟩) := rfl
  have hfaults : [some redisDown, none] =
      [RoleLookup.mk sampleAssignment (some redisDown)].flatMap
        (·.faults (namedStore "Reviewer") "acme") ++ [] := rfl
  obtain ⟨response, hrun, -, hunion⟩ :=
    getBootstrapCapabilities_collects (namedStore_agrees "Reviewer") hprofile rfl hfaults
  refine ⟨response, hrun, hunion fun a ha role hrole => ?_⟩
  obtain rfl := List.mem_singleton.mp ha
  obtain rfl : namedRole "Reviewer" = role := Option.some.inj hrole
  refine ⟨by decide, fun code hcode => ?_⟩
  obtain ⟨p, hp, rfl⟩ := hcode
  obtain rfl := List.mem_singleton.mp hp
  decide

/-- A role without a name is one of the user's roles after a cache error, and none of
    them after a hit. -/
theorem not_getBootstrapCapabilities_isUnion :
    ∃ hit miss, CacheAgrees (namedStore "") "acme" ∧
      (getBootstrapCapabilities acme sampleUserId ⟨namedStore "", []⟩).1 = .ok hit ∧
      (getBootstrapCapabilities acme sampleUserId
        ⟨namedStore "", [none, some redisDown]⟩).1 = .ok miss ∧
      hit.roles = [] ∧ miss.roles = [""] ∧
      ¬IsUnion (namedStore "") "acme" [sampleAssignment] hit := by
  refine ⟨_, _, namedStore_agrees "", rfl, rfl, rfl, rfl, fun hunion => ?_⟩
  have hnamed := (hunion.roles "").mpr
    ⟨sampleAssignment, List.mem_singleton_self _, namedRole "", rfl, rfl⟩
  cases hnamed

end AccessService.Authorization
