/-
  AccessService.UserGroups.GroupGrants

  What a group grants: each of its roles, with the group as the source and the
  group's scope.  The reconcilers collect these over a list of groups.
-/

import AccessService.UserGroups.EffectiveRoleMeaning

namespace AccessService.UserGroups

open AccessService.Lib AccessService.Pg AccessService.Persistence

variable {ε : Type}

-- ============================================================================
-- Collecting
-- ============================================================================

/-- The body of the reconcilers' loops over groups: nothing for a group that is
    missing or inactive, else one entry for each of its roles. -/
def grantsOf (ctx : Context) (groupId : Uuid) (entry : UserGroup → UserGroupRole → ε) :
    Service (List ε) := do
  let group ← UserGroupRepository.findById ctx groupId
  match group with
  | none => pure []
  | some group =>
    if group.status ≠ .ACTIVE then pure []
    else do
      let roles ← UserGroupRoleRepository.findByGroup ctx groupId
      pure (roles.map (entry group))

/-- What `grantsOf` reads. -/
def groupGrants (db : Database) (tenantCode : String) (groupId : Uuid)
    (entry : UserGroup → UserGroupRole → ε) : List ε :=
  match db.group tenantCode groupId with
  | none => []
  | some group =>
    if group.status ≠ .ACTIVE then []
    else (db.rolesOf tenantCode groupId).map (entry group)

theorem reads_grantsOf (ctx : Context) (groupId : Uuid)
    (entry : UserGroup → UserGroupRole → ε) :
    Faulty.Reads (grantsOf ctx groupId entry) fun s =>
      groupGrants s.db ctx.tenantCode groupId entry := by
  have hbody : ∀ group : Option UserGroup, Faulty.Reads
      (match group with
        | none => pure []
        | some group =>
          if group.status ≠ .ACTIVE then pure []
          else do
            let roles ← UserGroupRoleRepository.findByGroup ctx groupId
            pure (roles.map (entry group)) : Service (List ε))
      fun s => match group with
        | none => []
        | some group =>
          if group.status ≠ .ACTIVE then []
          else (s.db.rolesOf ctx.tenantCode groupId).map (entry group) := by
    intro group
    rcases group with _ | group
    · exact Faulty.reads_pure []
    · by_cases hactive : group.status ≠ .ACTIVE
      · simp only [if_pos hactive]
        exact Faulty.reads_pure []
      · simp only [if_neg hactive]
        exact (reads_readDb _).bind fun roles : List UserGroupRole =>
          Faulty.reads_pure (roles.map (entry group))
  exact (reads_readDb _).bind hbody

theorem grantsOf_keepsQuiet (ctx : Context) (groupId : Uuid)
    (entry : UserGroup → UserGroupRole → ε) :
    Faulty.KeepsQuiet (grantsOf ctx groupId entry) := by
  refine Faulty.KeepsQuiet.bind (Faulty.keepsQuiet_call _) fun group => ?_
  split
  · exact Faulty.keepsQuiet_pure []
  · split
    · exact Faulty.keepsQuiet_pure []
    · refine Faulty.KeepsQuiet.bind (Faulty.keepsQuiet_call _) fun roles => ?_
      exact Faulty.keepsQuiet_pure _

/-- The loop over a list. -/
theorem reads_collect_grants {α : Type} (ctx : Context) (groupId : α → Uuid)
    (entry : α → UserGroup → UserGroupRole → ε) (as : List α) :
    Faulty.Reads (.collect (fun a => grantsOf ctx (groupId a) (entry a)) as) fun s =>
      as.flatMap fun a => groupGrants s.db ctx.tenantCode (groupId a) (entry a) :=
  Faulty.reads_collect (fun a => reads_grantsOf ctx (groupId a) (entry a)) as

theorem groupGrants_map {δ : Type} (db : Database) (tenantCode : String) (groupId : Uuid)
    (entry : UserGroup → UserGroupRole → ε) (f : ε → δ) :
    (groupGrants db tenantCode groupId entry).map f =
      groupGrants db tenantCode groupId fun g r => f (entry g r) := by
  unfold groupGrants
  split
  · rfl
  · split
    · rfl
    · rw [List.map_map]
      rfl

-- ============================================================================
-- What is granted
-- ============================================================================

/-- The grant of a group's role. -/
def grant (g : UserGroup) (r : UserGroupRole) : UserEffectiveRoleEntry where
  roleId := r.roleId
  sourceGroupId := g.id
  scopeType := g.scopeType
  scopeEntityId := orNull g.scopeRefId

/-- The grants of the tenant's active groups among some. -/
def grantedBy (db : Database) (tenantCode : String) (groups : Set Uuid) :
    Set UserEffectiveRoleEntry :=
  {e | ∃ g ∈ db.groups.rows, g.tenantCode = tenantCode ∧ g.status = .ACTIVE ∧ g.id ∈ groups ∧
    ∃ r ∈ db.groupRoles.rows, r.tenantCode = tenantCode ∧ r.userGroupId = g.id ∧
      e = grant g r}

/-- The groups a user is a member of. -/
def groupsOf (db : Database) (tenantCode : String) (userId : Uuid) : Set Uuid :=
  {groupId | ⟨tenantCode, groupId, userId⟩ ∈ db.memberships.rows}

/-- What a user's memberships grant. -/
def granted (db : Database) (tenantCode : String) (userId : Uuid) :
    Set UserEffectiveRoleEntry :=
  grantedBy db tenantCode (groupsOf db tenantCode userId)

variable {db : Database} {tenantCode : String}

theorem mem_groupGrants {groupId : Uuid} {e : UserEffectiveRoleEntry} :
    e ∈ groupGrants db tenantCode groupId grant ↔ e ∈ grantedBy db tenantCode {groupId} := by
  constructor
  · intro he
    unfold groupGrants at he
    split at he
    · exact absurd he List.not_mem_nil
    next g hfind =>
      split at he
      · exact absurd he List.not_mem_nil
      next hactive =>
        obtain ⟨hmem, htenant, hid⟩ := Database.group_eq_some.mp hfind
        obtain ⟨r, hr, rfl⟩ := List.mem_map.mp he
        obtain ⟨hr', hrtenant, hrgroup⟩ := Database.mem_rolesOf.mp hr
        refine ⟨g, hmem, htenant, not_not.mp hactive, hid, r, hr', hrtenant, ?_, rfl⟩
        rw [hrgroup, hid]
  · rintro ⟨g, hmem, htenant, hactive, hid, r, hr, hrtenant, hrgroup, rfl⟩
    have hid' : g.id = groupId := hid
    have hfind : db.group tenantCode groupId = some g :=
      Database.group_eq_some.mpr ⟨hmem, htenant, hid'⟩
    unfold groupGrants
    rw [hfind]
    simp only [hactive, ne_eq, not_true_eq_false, if_false]
    exact List.mem_map_of_mem (Database.mem_rolesOf.mpr ⟨hr, hrtenant, hrgroup.trans hid'⟩)

theorem mem_flatMap_groupGrants {groupIds : List Uuid} {e : UserEffectiveRoleEntry} :
    e ∈ groupIds.flatMap (fun groupId => groupGrants db tenantCode groupId grant) ↔
      e ∈ grantedBy db tenantCode {groupId | groupId ∈ groupIds} := by
  rw [List.mem_flatMap]
  constructor
  · rintro ⟨groupId, hmem, he⟩
    obtain ⟨g, hg, htenant, hactive, hid, hrest⟩ := mem_groupGrants.mp he
    have hid' : g.id = groupId := hid
    exact ⟨g, hg, htenant, hactive, hid' ▸ hmem, hrest⟩
  · rintro ⟨g, hg, htenant, hactive, hid, hrest⟩
    exact ⟨g.id, hid, mem_groupGrants.mpr ⟨g, hg, htenant, hactive, rfl, hrest⟩⟩

theorem mem_groupsOf {userId groupId : Uuid} :
    groupId ∈ groupsOf db tenantCode userId ↔
      groupId ∈ (db.membershipsOf tenantCode userId).map (·.groupId) := by
  rw [List.mem_map]
  constructor
  · intro hmem
    exact ⟨_, Database.mem_membershipsOf.mpr ⟨hmem, rfl, rfl⟩, rfl⟩
  · rintro ⟨m, hm, rfl⟩
    obtain ⟨hmem, rfl, rfl⟩ := Database.mem_membershipsOf.mp hm
    exact hmem

/-- The entries collected over a user's memberships. -/
def membershipGrants (db : Database) (tenantCode : String) (userId : Uuid) :
    List UserEffectiveRoleEntry :=
  (db.membershipsOf tenantCode userId).flatMap fun m =>
    groupGrants db tenantCode m.groupId grant

theorem membershipGrants_eq_granted (db : Database) (tenantCode : String) (userId : Uuid) :
    {e | e ∈ membershipGrants db tenantCode userId} = granted db tenantCode userId := by
  ext e
  have hmap : membershipGrants db tenantCode userId =
      ((db.membershipsOf tenantCode userId).map (·.groupId)).flatMap
        fun groupId => groupGrants db tenantCode groupId grant := by
    rw [membershipGrants, List.flatMap_map]
  have hgroups : groupsOf db tenantCode userId =
      {groupId | groupId ∈ (db.membershipsOf tenantCode userId).map (·.groupId)} := by
    ext groupId
    exact mem_groupsOf
  show e ∈ membershipGrants db tenantCode userId ↔ e ∈ granted db tenantCode userId
  rw [hmap, mem_flatMap_groupGrants, granted, hgroups]

-- ============================================================================
-- What the grants depend on
-- ============================================================================

theorem EffectiveRolesChange.groupsOf {s s' : Store} (h : EffectiveRolesChange s s')
    (tenantCode : String) (userId : Uuid) :
    groupsOf s'.db tenantCode userId = groupsOf s.db tenantCode userId := by
  obtain ⟨table, rfl⟩ := h
  rfl

theorem EffectiveRolesChange.granted {s s' : Store} (h : EffectiveRolesChange s s')
    (tenantCode : String) (userId : Uuid) :
    granted s'.db tenantCode userId = granted s.db tenantCode userId := by
  obtain ⟨table, rfl⟩ := h
  rfl

namespace UserGroupMembershipRepository

variable {s s' : Store} {p : UserGroupMembership → Prop}

/-- What groups grant does not depend on who is in them. -/
theorem MembershipsNow.grantedBy (h : MembershipsNow s s' p) (tenantCode : String)
    (groups : Set Uuid) :
    grantedBy s'.db tenantCode groups = grantedBy s.db tenantCode groups := by
  obtain ⟨table, rfl, -⟩ := h
  rfl

theorem MembershipsNow.persisted (h : MembershipsNow s s' p) (tenantCode : String)
    (userId : Uuid) : persisted s'.db tenantCode userId = persisted s.db tenantCode userId := by
  obtain ⟨table, rfl, -⟩ := h
  rfl

theorem MembershipsNow.profiles (h : MembershipsNow s s' p) : s'.profiles = s.profiles := by
  obtain ⟨table, rfl, -⟩ := h
  rfl

end UserGroupMembershipRepository

end AccessService.UserGroups
