/-
  AccessService.UserGroups.MembershipReconciler

  `membership-reconciler.service.ts`: the memberships of one user, or of one
  group, are set to a target by adding and removing what differs, and the
  effective roles of the users concerned are synced to what their memberships
  grant.  Neither operation touches the cache.
-/

import AccessService.UserGroups.GroupGrants

namespace AccessService.UserGroups

open AccessService.Js AccessService.Lib AccessService.Pg AccessService.Persistence

structure SingleUserReconciliationResult where
  userId : Uuid
  addedGroupIds : List Uuid
  removedGroupIds : List Uuid
  effectiveRolesChanged : Bool
  deriving DecidableEq

structure GroupPopulationReconciliationResult where
  groupId : Uuid
  addedEmployeeIds : List Uuid
  removedEmployeeIds : List Uuid
  totalAffected : Nat
  deriving DecidableEq

namespace MembershipReconciler

open UserEffectiveRoleRepository UserGroupMembershipRepository

-- ============================================================================
-- The service
-- ============================================================================

/-- The elements of the first set that the second does not have, in order. -/
def diff (set other : List Uuid) : List Uuid := set.filter fun id => id ∉ other

/-- The grant of a group's role, under the id the group was asked for by. -/
def grantUnder (groupId : Uuid) (g : UserGroup) (r : UserGroupRole) : UserEffectiveRoleEntry where
  roleId := r.roleId
  sourceGroupId := groupId
  scopeType := g.scopeType
  scopeEntityId := orNull g.scopeRefId

def reconcileSingleUser (ctx : Context) (tenantCode : String) (userId : Uuid)
    (targetMatchingGroupIds : List Uuid) : Service SingleUserReconciliationResult := do
  let currentMemberships ← findByUserId ctx userId
  let currentGroupIds := setOf (currentMemberships.map (·.groupId))
  let targetGroupIdSet := setOf targetMatchingGroupIds
  let addedGroupIds := diff targetGroupIdSet currentGroupIds
  let removedGroupIds := diff currentGroupIds targetGroupIdSet
  if addedGroupIds.length = 0 ∧ removedGroupIds.length = 0 then
    pure ⟨userId, [], [], false⟩
  else do
    .forEach (insertSingleMembership ctx userId) addedGroupIds
    .forEach (deleteSingleMembership ctx userId) removedGroupIds
    let targetRoles ← .collect (fun gid => grantsOf ctx gid (grantUnder gid))
      targetMatchingGroupIds
    let roleDiff ← syncEffectiveRolesForUser ctx userId targetRoles
    OutboxEventRepository.create (.membershipReconciled tenantCode userId addedGroupIds
      removedGroupIds roleDiff.inserted roleDiff.deleted)
    pure ⟨userId, addedGroupIds, removedGroupIds, roleDiff.inserted > 0 || roleDiff.deleted > 0⟩

/-- The body of the loop over the affected ids. -/
def reconcileAffected (ctx : Context) (empId : Uuid) : Service Unit := do
  let empMemberships ← findByUserId ctx empId
  let targetRoles ← .collect (fun m => grantsOf ctx m.groupId grant) empMemberships
  let _ ← syncEffectiveRolesForUser ctx empId targetRoles
  pure ()

def reconcileGroupPopulation (ctx : Context) (groupId : Uuid) (matchedEmployeeIds : List Uuid)
    (groupVersion : Nat) : Service GroupPopulationReconciliationResult := do
  let currentMemberIds ← findMemberEmployeeIdsByGroup ctx groupId
  let currentSet := setOf currentMemberIds
  let matchedSet := setOf matchedEmployeeIds
  let addedEmployeeIds := diff matchedSet currentSet
  let removedEmployeeIds := diff currentSet matchedSet
  .when (addedEmployeeIds.length > 0) (batchInsert ctx groupId addedEmployeeIds)
  .when (removedEmployeeIds.length > 0) (batchDelete ctx groupId removedEmployeeIds)
  let group ← UserGroupRepository.findById ctx groupId
  .when (group.isSome = true) do
    .forEach (reconcileAffected ctx) (addedEmployeeIds ++ removedEmployeeIds)
    UserGroupRepository.updateProjectionVersion ctx groupId groupVersion
  pure ⟨groupId, addedEmployeeIds, removedEmployeeIds,
    addedEmployeeIds.length + removedEmployeeIds.length⟩

-- ============================================================================
-- Differences
-- ============================================================================

theorem mem_diff_setOf {target current : List Uuid} {id : Uuid} :
    id ∈ diff (setOf target) (setOf current) ↔ id ∈ target ∧ id ∉ current := by
  rw [diff, List.mem_filter, mem_setOf, decide_eq_true_eq, mem_setOf]

theorem diff_nil_iff {target current : List Uuid} :
    (diff (setOf target) (setOf current)).length = 0 ∧
        (diff (setOf current) (setOf target)).length = 0 ↔
      ∀ id, id ∈ target ↔ id ∈ current := by
  rw [List.length_eq_zero_iff, List.length_eq_zero_iff, List.eq_nil_iff_forall_not_mem,
    List.eq_nil_iff_forall_not_mem]
  simp only [mem_diff_setOf, not_and, not_not]
  exact ⟨fun h id => ⟨h.1 id, h.2 id⟩, fun h => ⟨fun id => (h id).mp, fun id => (h id).mpr⟩⟩

/-- Adding what is missing and removing what is left over makes a set the target;
    `a` and `b` say which rows are concerned. -/
theorem set_by_difference {a b row target current : Prop} [Decidable (a ∧ b)]
    (h : a → b → (row ↔ current)) :
    (row ∨ a ∧ b ∧ target ∧ ¬current) ∧ ¬(a ∧ b ∧ current ∧ ¬target) ↔
      if a ∧ b then target else row := by
  by_cases hab : a ∧ b
  · rw [if_pos hab, h hab.1 hab.2]
    tauto
  · rw [if_neg hab]
    tauto

-- ============================================================================
-- The memberships
-- ============================================================================

section Memberships

variable {ctx : Context} {userId groupId : Uuid} {w w' : World Store Failure} {u : Unit}

theorem insertMemberships_ok {groupIds : List Uuid}
    (h : Faulty.forEach (insertSingleMembership ctx userId) groupIds w = (.ok u, w')) :
    MembershipsNow w.state w'.state fun m => m ∈ w.state.db.memberships.rows ∨
      (m.tenantCode = ctx.tenantCode ∧ m.userId = userId ∧ m.groupId ∈ groupIds) := by
  induction groupIds generalizing w with
  | nil =>
    obtain ⟨-, rfl⟩ := Faulty.pure_ok.mp h
    refine (MembershipsNow.refl _).congr fun m => ?_
    simp only [List.not_mem_nil, and_false, or_false]
  | cons g gs ih =>
    obtain ⟨v, w₁, hhead, htail⟩ := Faulty.bind_ok.mp h
    have hfirst := insertAll_ok hhead
    refine (hfirst.trans (ih htail)).congr fun m => ?_
    rw [hfirst.mem, List.mem_singleton, List.mem_cons, or_assoc]
    refine or_congr_right ⟨?_, ?_⟩
    · rintro (rfl | ⟨htenant, huser, hmem⟩)
      · exact ⟨rfl, rfl, .inl rfl⟩
      · exact ⟨htenant, huser, .inr hmem⟩
    · rintro ⟨htenant, huser, hgroup | hmem⟩
      · exact .inl (by rw [← htenant, ← huser, ← hgroup])
      · exact .inr ⟨htenant, huser, hmem⟩

theorem deleteMemberships_ok {groupIds : List Uuid}
    (h : Faulty.forEach (deleteSingleMembership ctx userId) groupIds w = (.ok u, w')) :
    MembershipsNow w.state w'.state fun m => m ∈ w.state.db.memberships.rows ∧
      ¬(m.tenantCode = ctx.tenantCode ∧ m.userId = userId ∧ m.groupId ∈ groupIds) := by
  induction groupIds generalizing w with
  | nil =>
    obtain ⟨-, rfl⟩ := Faulty.pure_ok.mp h
    refine (MembershipsNow.refl _).congr fun m => ?_
    simp only [List.not_mem_nil, and_false, not_false_eq_true, and_true]
  | cons g gs ih =>
    obtain ⟨v, w₁, hhead, htail⟩ := Faulty.bind_ok.mp h
    have hfirst := deleteWhere_ok hhead
    refine (hfirst.trans (ih htail)).congr fun m => ?_
    rw [hfirst.mem, and_assoc]
    refine and_congr_right fun _ => ?_
    simp only [Bool.and_eq_false_iff, decide_eq_false_iff_not, List.mem_cons]
    tauto

end Memberships

-- ============================================================================
-- One user
-- ============================================================================

section SingleUser

variable {ctx : Context} {tenantCode : String} {userId : Uuid} {groupIds : List Uuid}
  {w w' : World Store Failure} {result : SingleUserReconciliationResult}

/-- The user's groups are the listed ones; everybody else keeps theirs. -/
def UserMemberships (db : Database) (tenantCode : String) (userId : Uuid)
    (groupIds : List Uuid) (m : UserGroupMembership) : Prop :=
  if m.tenantCode = tenantCode ∧ m.userId = userId then m.groupId ∈ groupIds
  else m ∈ db.memberships.rows

theorem groupGrants_under (db : Database) (tenantCode : String) (groupId : Uuid) :
    groupGrants db tenantCode groupId (grantUnder groupId) =
      groupGrants db tenantCode groupId grant := by
  unfold groupGrants
  split
  · rfl
  next g hfind =>
    have hgrant : grantUnder groupId g = grant g := by
      rw [← (Database.group_eq_some.mp hfind).2.2]
      rfl
    rw [hgrant]

/-- What a reconciliation of one user did: nothing, or memberships, effective roles
    and an event, in this order. -/
theorem reconcileSingleUser_ok
    (h : reconcileSingleUser ctx tenantCode userId groupIds w = (.ok result, w')) :
    ((∀ id, id ∈ groupIds ↔ id ∈ groupsOf w.state.db ctx.tenantCode userId) ∧
      w'.state = w.state) ∨
    (¬∀ id, id ∈ groupIds ↔ id ∈ groupsOf w.state.db ctx.tenantCode userId) ∧
    ∃ s₁ s₂ event,
      MembershipsNow w.state s₁ (UserMemberships w.state.db ctx.tenantCode userId groupIds) ∧
      Synced ctx userId (groupIds.flatMap fun gid =>
        groupGrants s₁.db ctx.tenantCode gid grant) s₁ s₂ ∧
      w'.state = { s₂ with db := { s₂.db with outbox := s₂.db.outbox ++ [event] } } := by
  simp only [reconcileSingleUser, Faulty.bind_ok] at h
  obtain ⟨rows, w₀, hfind, hrest⟩ := h
  obtain ⟨rfl, hstate⟩ := (reads_readDb _).ok hfind
  have hcurrent : ∀ id, id ∈ groupsOf w.state.db ctx.tenantCode userId ↔
      id ∈ (w.state.db.membershipsOf ctx.tenantCode userId).map (·.groupId) :=
    fun id => mem_groupsOf
  split at hrest
  next hnone =>
    obtain ⟨-, rfl⟩ := Faulty.pure_ok.mp hrest
    refine .inl ⟨fun id => ?_, hstate⟩
    rw [hcurrent]
    exact diff_nil_iff.mp hnone id
  next hsome =>
    simp only [Faulty.bind_ok, Faulty.pure_ok] at hrest
    obtain ⟨u, w₁, hinsert, v, w₂, hdelete, roles, w₃, hcollect, diff, w₄, hsync, x, w₅, hevent,
      -, rfl⟩ := hrest
    have hinserted := insertMemberships_ok hinsert
    have hdeleted := deleteMemberships_ok hdelete
    obtain ⟨hroles, hstate₃⟩ :=
      (reads_collect_grants ctx (fun gid : Uuid => gid) grantUnder _).ok hcollect
    have hsynced := (syncRows_ok hsync).1
    have hdiffers : ¬∀ id, id ∈ groupIds ↔ id ∈ groupsOf w.state.db ctx.tenantCode userId :=
      fun hsame => hsome (diff_nil_iff.mpr fun id => (hsame id).trans (hcurrent id))
    refine .inr ⟨hdiffers, w₂.state, w₄.state, _, ?_, ?_, writeDb_ok hevent⟩
    · rw [← hstate]
      refine (hinserted.trans hdeleted).congr fun m => ?_
      rw [hinserted.mem, mem_diff_setOf, mem_diff_setOf, ← hcurrent, ← hstate]
      refine set_by_difference fun htenant huser => ?_
      rw [← htenant, ← huser]
      rfl
    · rw [hstate₃] at hsynced
      rw [hroles] at hsynced
      simp only [groupGrants_under] at hsynced
      exact hsynced

theorem groupsOf_user {s s' : Store} {tenantCode : String}
    (h : MembershipsNow s s' (UserMemberships s.db tenantCode userId groupIds)) :
    groupsOf s'.db tenantCode userId = {id | id ∈ groupIds} := by
  ext id
  show (⟨tenantCode, id, userId⟩ : UserGroupMembership) ∈ s'.db.memberships.rows ↔ _
  rw [h.mem, UserMemberships, if_pos ⟨rfl, rfl⟩]
  rfl

/-- The user ends up in the listed groups. -/
theorem reconcileSingleUser_groups
    (h : reconcileSingleUser ctx tenantCode userId groupIds w = (.ok result, w')) :
    groupsOf w'.state.db ctx.tenantCode userId = {id | id ∈ groupIds} := by
  rcases reconcileSingleUser_ok h with ⟨hsame, hstate⟩ |
    ⟨hdiffers, s₁, s₂, event, hnow, hsynced, hstate⟩
  · rw [hstate]
    ext id
    exact (hsame id).symm
  · rw [hstate]
    show groupsOf s₂.db ctx.tenantCode userId = _
    rw [hsynced.frame.groupsOf]
    exact groupsOf_user hnow

/-- Nobody else's groups change, nor the groups themselves. -/
theorem reconcileSingleUser_elsewhere
    (h : reconcileSingleUser ctx tenantCode userId groupIds w = (.ok result, w')) :
    w'.state.db.groups = w.state.db.groups ∧
      ∀ tenantCode' userId', ¬(tenantCode' = ctx.tenantCode ∧ userId' = userId) →
        groupsOf w'.state.db tenantCode' userId' = groupsOf w.state.db tenantCode' userId' := by
  rcases reconcileSingleUser_ok h with ⟨-, hstate⟩ | ⟨-, s₁, s₂, event, hnow, hsynced, hstate⟩
  · rw [hstate]
    exact ⟨rfl, fun _ _ _ => rfl⟩
  · rw [hstate]
    obtain ⟨table, hframe⟩ := hsynced.frame
    have hgroups : s₂.db.groups = w.state.db.groups := by
      obtain ⟨memberships, rfl, -⟩ := hnow
      rw [hframe]
    refine ⟨hgroups, fun t u hother => ?_⟩
    show groupsOf s₂.db t u = _
    rw [hsynced.frame.groupsOf]
    ext id
    show (⟨t, id, u⟩ : UserGroupMembership) ∈ s₁.db.memberships.rows ↔ _
    rw [hnow.mem, UserMemberships, if_neg hother]
    rfl

/-- Unless the user has what the listed groups grant, nobody else's effective roles
    are what may change; no profile does. -/
theorem reconcileSingleUser_effect
    (h : reconcileSingleUser ctx tenantCode userId groupIds w = (.ok result, w')) :
    w'.state.profiles = w.state.profiles ∧
      ∀ tenantCode' userId',
        ((tenantCode' = ctx.tenantCode ∧ userId' = userId) →
          {id | id ∈ groupIds} = groupsOf w.state.db ctx.tenantCode userId ∨
            persisted w.state.db ctx.tenantCode userId =
              grantedBy w.state.db ctx.tenantCode {id | id ∈ groupIds}) →
        persisted w'.state.db tenantCode' userId' = persisted w.state.db tenantCode' userId' := by
  rcases reconcileSingleUser_ok h with ⟨-, hstate⟩ |
    ⟨hdiffers, s₁, s₂, event, hnow, hsynced, hstate⟩
  · rw [hstate]
    exact ⟨rfl, fun _ _ _ => rfl⟩
  · have hpersisted₂ : ∀ t u, persisted w'.state.db t u = persisted s₂.db t u := by
      rw [hstate]
      exact fun _ _ => rfl
    have hprofiles₂ : w'.state.profiles = s₂.profiles := by rw [hstate]
    refine ⟨hprofiles₂.trans (hsynced.frame.profiles.trans hnow.profiles), ?_⟩
    intro t u hmine
    rw [hpersisted₂, ← hnow.persisted]
    by_cases hkey : t = ctx.tenantCode ∧ u = userId
    · rcases hmine hkey with hsame | hgranted
      · exact absurd (fun id => Set.ext_iff.mp hsame id) hdiffers
      · obtain ⟨rfl, rfl⟩ := hkey
        refine hsynced.persisted_same ?_
        rw [hnow.persisted, hgranted, ← hnow.grantedBy]
        ext e
        exact mem_flatMap_groupGrants.symm
    · exact hsynced.othersKept.persisted_eq hkey

end SingleUser

-- ============================================================================
-- One group
-- ============================================================================

section GroupPopulation

variable {ctx : Context} {groupId : Uuid} {matched : List Uuid} {version : Nat}
  {w w' : World Store Failure} {result : GroupPopulationReconciliationResult}

/-- The group's members are the matched ids; other groups keep theirs. -/
def GroupMemberships (db : Database) (tenantCode : String) (groupId : Uuid)
    (matched : List Uuid) (m : UserGroupMembership) : Prop :=
  if m.tenantCode = tenantCode ∧ m.groupId = groupId then m.userId ∈ matched
  else m ∈ db.memberships.rows

/-- The ids whose membership changes. -/
def affectedIds (db : Database) (tenantCode : String) (groupId : Uuid) (matched : List Uuid) :
    List Uuid :=
  diff (setOf matched) (setOf (db.membersOf tenantCode groupId)) ++
    diff (setOf (db.membersOf tenantCode groupId)) (setOf matched)

theorem mem_affectedIds {db : Database} {tenantCode : String} {userId : Uuid} :
    userId ∈ affectedIds db tenantCode groupId matched ↔
      ¬(userId ∈ matched ↔ groupId ∈ groupsOf db tenantCode userId) := by
  have hmember : userId ∈ db.membersOf tenantCode groupId ↔
      groupId ∈ groupsOf db tenantCode userId := Database.mem_membersOf
  rw [affectedIds, List.mem_append, mem_diff_setOf, mem_diff_setOf, hmember]
  tauto

/-- The groups a user is in once the group has the matched members. -/
def groupsAfter (db : Database) (tenantCode : String) (groupId : Uuid) (matched : List Uuid)
    (userId : Uuid) : Set Uuid :=
  {id | if id = groupId then userId ∈ matched else id ∈ groupsOf db tenantCode userId}

theorem groupsOf_population {s s' : Store} {tenantCode : String} {userId : Uuid}
    (h : MembershipsNow s s' (GroupMemberships s.db tenantCode groupId matched)) :
    groupsOf s'.db tenantCode userId = groupsAfter s.db tenantCode groupId matched userId := by
  ext id
  show (⟨tenantCode, id, userId⟩ : UserGroupMembership) ∈ s'.db.memberships.rows ↔
    if id = groupId then userId ∈ matched else id ∈ groupsOf s.db tenantCode userId
  rw [h.mem, GroupMemberships]
  by_cases hid : id = groupId
  · rw [if_pos ⟨rfl, hid⟩, if_pos hid]
  · rw [if_neg fun hkey => hid hkey.2, if_neg hid]
    rfl

/-- The body of the loop syncs the user to what the memberships grant. -/
theorem reconcileAffected_ok {userId : Uuid} {u : Unit}
    (h : reconcileAffected ctx userId w = (.ok u, w')) :
    Synced ctx userId (membershipGrants w.state.db ctx.tenantCode userId) w.state w'.state := by
  simp only [reconcileAffected, Faulty.bind_ok, Faulty.pure_ok] at h
  obtain ⟨rows, w₁, hfind, roles, w₂, hcollect, diff, w₃, hsync, -, rfl⟩ := h
  obtain ⟨rfl, hstate⟩ := (reads_readDb _).ok hfind
  obtain ⟨rfl, hstate₂⟩ := (reads_collect_grants ctx UserGroupMembership.groupId
    (fun _ => grant) _).ok hcollect
  have hsynced := (syncRows_ok hsync).1
  rw [hstate₂, hstate] at hsynced
  exact hsynced

theorem reconcileAffected_leavesTables (ctx : Context) (userId : Uuid) :
    Faulty.Leaves Store.tables (reconcileAffected ctx userId) := by
  refine (leaves_readDb _).bind fun rows => ?_
  have hcollect := reads_collect_grants ctx UserGroupMembership.groupId (fun _ => grant) rows
  refine hcollect.leaves.bind fun roles => ?_
  exact (syncRows_leavesTables ctx userId roles).bind fun _ => Faulty.leaves_pure ()

theorem reconcileAffected_leaves (ctx : Context) (userId : Uuid) :
    Faulty.Leaves Store.basis (reconcileAffected ctx userId) :=
  leaves_basis (reconcileAffected_leavesTables ctx userId)

/-- The loop changes effective roles only, and those of a listed user only if they
    are not what the user's memberships grant. -/
theorem reconcileAll_ok {userIds : List Uuid} {u : Unit}
    (h : Faulty.forEach (reconcileAffected ctx) userIds w = (.ok u, w')) :
    EffectiveRolesChange w.state w'.state ∧
      ∀ tenantCode userId,
        ((tenantCode = ctx.tenantCode ∧ userId ∈ userIds) →
          persisted w.state.db tenantCode userId = granted w.state.db tenantCode userId) →
        persisted w'.state.db tenantCode userId = persisted w.state.db tenantCode userId := by
  induction userIds generalizing w with
  | nil =>
    obtain ⟨-, rfl⟩ := Faulty.pure_ok.mp h
    exact ⟨.refl _, fun _ _ _ => rfl⟩
  | cons id ids ih =>
    obtain ⟨v, w₁, hhead, htail⟩ := Faulty.bind_ok.mp h
    have hsynced := reconcileAffected_ok hhead
    obtain ⟨hframe, hrest⟩ := ih htail
    refine ⟨hsynced.frame.trans hframe, fun t userId hmine => ?_⟩
    have hfirst : persisted w₁.state.db t userId = persisted w.state.db t userId := by
      by_cases hkey : t = ctx.tenantCode ∧ userId = id
      · have hgranted := hmine ⟨hkey.1, hkey.2 ▸ List.mem_cons_self⟩
        obtain ⟨rfl, rfl⟩ := hkey
        rw [← membershipGrants_eq_granted] at hgranted
        exact hsynced.persisted_same hgranted
      · exact hsynced.othersKept.persisted_eq hkey
    rw [← hfirst]
    refine hrest t userId fun ⟨ht, hmem⟩ => ?_
    rw [hfirst, hsynced.frame.granted]
    exact hmine ⟨ht, List.mem_cons_of_mem _ hmem⟩

/-- What a reconciliation of a group did: the memberships, then, if the group is
    there, the effective roles of the affected users and the group's version. -/
theorem reconcileGroupPopulation_ok
    (h : reconcileGroupPopulation ctx groupId matched version w = (.ok result, w')) :
    ∃ w₁ : World Store Failure,
      MembershipsNow w.state w₁.state
        (GroupMemberships w.state.db ctx.tenantCode groupId matched) ∧
      ((w.state.db.group ctx.tenantCode groupId = none ∧ w'.state = w₁.state) ∨
        w.state.db.group ctx.tenantCode groupId ≠ none ∧
        ∃ (w₂ : World Store Failure) (u : Unit),
          Faulty.forEach (reconcileAffected ctx)
            (affectedIds w.state.db ctx.tenantCode groupId matched) w₁ = (.ok u, w₂) ∧
          UserGroupRepository.updateProjectionVersion ctx groupId version w₂ = (.ok u, w')) := by
  simp only [reconcileGroupPopulation, when_batchInsert, when_batchDelete, Faulty.bind_ok,
    Faulty.pure_ok] at h
  obtain ⟨rows, w₀, hfind, u, w₁, hinsert, v, w₂, hdelete, group, w₃, hgroup, x, w₄, hrest, -,
    rfl⟩ := h
  obtain ⟨rfl, hstate⟩ := (reads_readDb _).ok hfind
  obtain ⟨rfl, hstate₃⟩ := (reads_readDb _).ok hgroup
  have hinserted := batchInsert_ok hinsert
  have hdeleted := batchDelete_ok hdelete
  have hnow : MembershipsNow w.state w₃.state
      (GroupMemberships w.state.db ctx.tenantCode groupId matched) := by
    rw [hstate₃, ← hstate]
    refine (hinserted.trans hdeleted).congr fun m => ?_
    rw [hinserted.mem, mem_diff_setOf, mem_diff_setOf]
    refine set_by_difference fun htenant hgroup => ?_
    rw [Database.mem_membersOf, ← htenant, ← hgroup, hstate]
  have hsame : w₂.state.db.group ctx.tenantCode groupId =
      w.state.db.group ctx.tenantCode groupId := by
    obtain ⟨table, htable, -⟩ := hnow
    rw [hstate₃] at htable
    rw [htable]
    rfl
  refine ⟨w₃, hnow, ?_⟩
  rw [hsame] at hrest
  rcases Faulty.when_ok hrest with ⟨hsome, hrun⟩ | ⟨hnone, hstate₄⟩
  · obtain ⟨y, w₅, hloop, hupdate⟩ := Faulty.bind_ok.mp hrun
    exact .inr ⟨Option.isSome_iff_ne_none.mp hsome, w₅, y, hloop, hupdate⟩
  · refine .inl ⟨?_, congrArg _ hstate₄⟩
    rw [Option.isSome_iff_ne_none, not_not] at hnone
    exact hnone

/-- The group ends up with the matched members, and no other group changes. -/
theorem reconcileGroupPopulation_memberships
    (h : reconcileGroupPopulation ctx groupId matched version w = (.ok result, w'))
    (m : UserGroupMembership) :
    m ∈ w'.state.db.memberships.rows ↔
      GroupMemberships w.state.db ctx.tenantCode groupId matched m := by
  obtain ⟨w₁, hnow, ⟨-, hstate⟩ | ⟨-, w₂, u, hloop, hupdate⟩⟩ :=
    reconcileGroupPopulation_ok h
  · rw [hstate]
    exact hnow.mem m
  · obtain ⟨⟨table, htable⟩, -⟩ := reconcileAll_ok hloop
    rw [writeDb_ok hupdate, htable]
    exact hnow.mem m

/-- No profile changes, and the effective roles of a user only if the group is there,
    the user's membership changes and the user does not have what the memberships
    grant then. -/
theorem reconcileGroupPopulation_effect
    (h : reconcileGroupPopulation ctx groupId matched version w = (.ok result, w')) :
    w'.state.profiles = w.state.profiles ∧
      ∀ tenantCode userId,
        ((tenantCode = ctx.tenantCode ∧
            ¬(userId ∈ matched ↔ groupId ∈ groupsOf w.state.db ctx.tenantCode userId)) →
          w.state.db.group ctx.tenantCode groupId = none ∨
            persisted w.state.db ctx.tenantCode userId = grantedBy w.state.db ctx.tenantCode
              (groupsAfter w.state.db ctx.tenantCode groupId matched userId)) →
        persisted w'.state.db tenantCode userId = persisted w.state.db tenantCode userId := by
  obtain ⟨w₁, hnow, ⟨-, hstate⟩ | ⟨hsome, w₂, u, hloop, hupdate⟩⟩ :=
    reconcileGroupPopulation_ok h
  · rw [hstate]
    exact ⟨hnow.profiles, fun t userId _ => hnow.persisted t userId⟩
  · obtain ⟨hframe, hpersisted⟩ := reconcileAll_ok hloop
    have hstate := writeDb_ok hupdate
    have hprofiles : w'.state.profiles = w₂.state.profiles := by rw [hstate]
    refine ⟨hprofiles.trans (hframe.profiles.trans hnow.profiles), fun t userId hmine => ?_⟩
    have hsame : persisted w'.state.db t userId = persisted w₂.state.db t userId := by
      rw [hstate]
      rfl
    rw [hsame, ← hnow.persisted]
    refine hpersisted t userId fun ⟨ht, hmem⟩ => ?_
    subst ht
    have hgranted := (hmine ⟨rfl, mem_affectedIds.mp hmem⟩).resolve_left hsome
    rw [hnow.persisted, hgranted, granted, groupsOf_population hnow, hnow.grantedBy]

end GroupPopulation

end MembershipReconciler

end AccessService.UserGroups
