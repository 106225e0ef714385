/-
  AccessService.UserGroups.Repositories

  `user-group.repository.ts`, `user-group-role.repository.ts` and
  `user-group-membership.repository.ts`: the queries of the reconcilers, each
  with what it reads or writes when it returns.
-/

import AccessService.Persistence.Database

namespace AccessService.Persistence.Database

open AccessService.Pg AccessService.UserGroups

-- ============================================================================
-- What the queries select
-- ============================================================================

def group (db : Database) (tenantCode : String) (id : Uuid) : Option UserGroup :=
  db.groups.rows.find? fun g => g.tenantCode = tenantCode && g.id = id

def activeGroups (db : Database) (tenantCode : String) : List UserGroup :=
  db.groups.rows.filter fun g => g.tenantCode = tenantCode && g.status = .ACTIVE

def rolesOf (db : Database) (tenantCode : String) (groupId : Uuid) : List UserGroupRole :=
  db.groupRoles.rows.filter fun r => r.tenantCode = tenantCode && r.userGroupId = groupId

def membershipsOf (db : Database) (tenantCode : String) (userId : Uuid) :
    List UserGroupMembership :=
  db.memberships.rows.filter fun m => m.tenantCode = tenantCode && m.userId = userId

def membersOf (db : Database) (tenantCode : String) (groupId : Uuid) : List Uuid :=
  (db.memberships.rows.filter fun m =>
    m.tenantCode = tenantCode && m.groupId = groupId).map (·.userId)

variable {db : Database} {tenantCode : String}

theorem group_eq_some {id : Uuid} {g : UserGroup} :
    db.group tenantCode id = some g ↔
      g ∈ db.groups.rows ∧ g.tenantCode = tenantCode ∧ g.id = id :=
  Lib.Keyed.find?_and_key

theorem mem_activeGroups {g : UserGroup} :
    g ∈ db.activeGroups tenantCode ↔
      g ∈ db.groups.rows ∧ g.tenantCode = tenantCode ∧ g.status = .ACTIVE := by
  simp only [activeGroups, List.mem_filter, Bool.and_eq_true, decide_eq_true_eq]

theorem mem_rolesOf {groupId : Uuid} {r : UserGroupRole} :
    r ∈ db.rolesOf tenantCode groupId ↔
      r ∈ db.groupRoles.rows ∧ r.tenantCode = tenantCode ∧ r.userGroupId = groupId := by
  simp only [rolesOf, List.mem_filter, Bool.and_eq_true, decide_eq_true_eq]

theorem mem_membershipsOf {userId : Uuid} {m : UserGroupMembership} :
    m ∈ db.membershipsOf tenantCode userId ↔
      m ∈ db.memberships.rows ∧ m.tenantCode = tenantCode ∧ m.userId = userId := by
  simp only [membershipsOf, List.mem_filter, Bool.and_eq_true, decide_eq_true_eq]

theorem mem_membersOf {groupId userId : Uuid} :
    userId ∈ db.membersOf tenantCode groupId ↔
      ⟨tenantCode, groupId, userId⟩ ∈ db.memberships.rows := by
  simp only [membersOf, List.mem_map, List.mem_filter, Bool.and_eq_true, decide_eq_true_eq]
  constructor
  · rintro ⟨⟨t, g, u⟩, ⟨hmem, rfl, rfl⟩, rfl⟩
    exact hmem
  · intro hmem
    exact ⟨_, ⟨hmem, rfl, rfl⟩, rfl⟩

end AccessService.Persistence.Database

namespace AccessService.UserGroups

open AccessService.Lib AccessService.Pg AccessService.Persistence

variable {w w' : World Store Failure} {u : Unit}

-- ============================================================================
-- Groups and their roles
-- ============================================================================

namespace UserGroupRepository

def findById (ctx : Context) (id : Uuid) : Service (Option UserGroup) :=
  readDb fun db => db.group ctx.tenantCode id

def findActiveGroups (ctx : Context) : Service (List UserGroup) :=
  readDb fun db => db.activeGroups ctx.tenantCode

/-- `rule_attribute_keys && :attributeKeys`: the arrays overlap. -/
def findByAttributeKeys (ctx : Context) (attributeKeys : List String) :
    Service (List UserGroup) :=
  if attributeKeys = [] then pure []
  else
    readDb fun db => (db.activeGroups ctx.tenantCode).filter fun g =>
      g.ruleAttributeKeys.any fun key => key ∈ attributeKeys

def withProjectionVersion (tenantCode : String) (id : Uuid) (projectionVersion : Nat)
    (g : UserGroup) : UserGroup :=
  if g.tenantCode = tenantCode ∧ g.id = id then
    { g with projectionVersion := projectionVersion }
  else g

theorem withProjectionVersion_id (tenantCode : String) (id : Uuid) (version : Nat)
    (g : UserGroup) : (withProjectionVersion tenantCode id version g).id = g.id := by
  unfold withProjectionVersion
  split <;> rfl

def updateProjectionVersion (ctx : Context) (id : Uuid) (projectionVersion : Nat) :
    Service Unit :=
  writeDb fun db => { db with
    groups := db.groups.update (withProjectionVersion ctx.tenantCode id projectionVersion)
      (withProjectionVersion_id ctx.tenantCode id projectionVersion) }

/-- The group, if there is one, has the version afterwards. -/
theorem updateProjectionVersion_ok {ctx : Context} {id : Uuid} {projectionVersion : Nat}
    (h : updateProjectionVersion ctx id projectionVersion w = (.ok u, w')) :
    w'.state.db.group ctx.tenantCode id = (w.state.db.group ctx.tenantCode id).map fun g =>
      { g with projectionVersion := projectionVersion } := by
  have hupdated : w'.state.db.group ctx.tenantCode id =
      (w.state.db.group ctx.tenantCode id).map
        (withProjectionVersion ctx.tenantCode id projectionVersion) := by
    rw [writeDb_ok h]
    refine Keyed.find?_update (withProjectionVersion_id _ _ _) fun g => ?_
    unfold withProjectionVersion
    split <;> rfl
  rw [hupdated]
  rcases hfound : w.state.db.group ctx.tenantCode id with _ | g
  · rfl
  · obtain ⟨-, htenant, hid⟩ := Database.group_eq_some.mp hfound
    rw [Option.map_some, Option.map_some, withProjectionVersion, if_pos ⟨htenant, hid⟩]

end UserGroupRepository

namespace UserGroupRoleRepository

def findByGroup (ctx : Context) (userGroupId : Uuid) : Service (List UserGroupRole) :=
  readDb fun db => db.rolesOf ctx.tenantCode userGroupId

end UserGroupRoleRepository

-- ============================================================================
-- Memberships
-- ============================================================================

namespace UserGroupMembershipRepository

def findByUserId (ctx : Context) (userId : Uuid) : Service (List UserGroupMembership) :=
  readDb fun db => db.membershipsOf ctx.tenantCode userId

def findMemberEmployeeIdsByGroup (ctx : Context) (groupId : Uuid) : Service (List Uuid) :=
  readDb fun db => db.membersOf ctx.tenantCode groupId

def insertAll (memberships : List UserGroupMembership) : Service Unit :=
  .call fun s =>
    match s.db.memberships.insertAll memberships with
    | some table => .ok ((), { s with db := { s.db with memberships := table } })
    | none => .error uniqueViolation

def deleteWhere (p : UserGroupMembership → Bool) : Service Unit :=
  writeDb fun db => { db with memberships := db.memberships.deleteWhere p }

def batchInsert (ctx : Context) (groupId : Uuid) (userIds : List Uuid) : Service Unit :=
  if userIds = [] then pure ()
  else insertAll (userIds.map fun userId => ⟨ctx.tenantCode, groupId, userId⟩)

def batchDelete (ctx : Context) (groupId : Uuid) (userIds : List Uuid) : Service Unit :=
  if userIds = [] then pure ()
  else
    deleteWhere fun m =>
      m.tenantCode = ctx.tenantCode && m.groupId = groupId && m.userId ∈ userIds

def insertSingleMembership (ctx : Context) (userId groupId : Uuid) : Service Unit :=
  insertAll [⟨ctx.tenantCode, groupId, userId⟩]

def deleteSingleMembership (ctx : Context) (userId groupId : Uuid) : Service Unit :=
  deleteWhere fun m =>
    m.tenantCode = ctx.tenantCode && m.userId = userId && m.groupId = groupId

/-- The callers' checks for an empty list repeat the repository's. -/
theorem when_batchInsert (ctx : Context) (groupId : Uuid) (userIds : List Uuid) :
    Faulty.when (userIds.length > 0) (batchInsert ctx groupId userIds) =
      batchInsert ctx groupId userIds := by
  cases userIds <;> rfl

theorem when_batchDelete (ctx : Context) (groupId : Uuid) (userIds : List Uuid) :
    Faulty.when (userIds.length > 0) (batchDelete ctx groupId userIds) =
      batchDelete ctx groupId userIds := by
  cases userIds <;> rfl

/-- The store differs in its memberships only, which `p` describes. -/
def MembershipsNow (s s' : Store) (p : UserGroupMembership → Prop) : Prop :=
  ∃ table, s' = { s with db := { s.db with memberships := table } } ∧
    ∀ m, m ∈ table.rows ↔ p m

theorem MembershipsNow.refl (s : Store) : MembershipsNow s s (· ∈ s.db.memberships.rows) :=
  ⟨s.db.memberships, rfl, fun _ => Iff.rfl⟩

theorem MembershipsNow.mem {s s' : Store} {p : UserGroupMembership → Prop}
    (h : MembershipsNow s s' p) (m : UserGroupMembership) :
    m ∈ s'.db.memberships.rows ↔ p m := by
  obtain ⟨table, rfl, hp⟩ := h
  exact hp m

theorem MembershipsNow.trans {s s₁ s' : Store} {p q : UserGroupMembership → Prop}
    (h : MembershipsNow s s₁ p) (h' : MembershipsNow s₁ s' q) : MembershipsNow s s' q := by
  obtain ⟨table, rfl, -⟩ := h
  obtain ⟨table', rfl, hq⟩ := h'
  exact ⟨table', rfl, hq⟩

theorem MembershipsNow.congr {s s' : Store} {p q : UserGroupMembership → Prop}
    (h : MembershipsNow s s' p) (hpq : ∀ m, p m ↔ q m) : MembershipsNow s s' q := by
  obtain ⟨table, hs, hp⟩ := h
  exact ⟨table, hs, fun m => (hp m).trans (hpq m)⟩

section Leaves

-- a view of the store without the memberships
variable {β : Type} {view : Store → β}
  (hview : ∀ s memberships, view { s with db := { s.db with memberships := memberships } } = view s)

include hview

theorem batchInsert_leaves (ctx : Context) (groupId : Uuid) (userIds : List Uuid) :
    Faulty.Leaves view (batchInsert ctx groupId userIds) := by
  unfold batchInsert
  split
  · exact Faulty.leaves_pure ()
  · refine Faulty.leaves_call fun s a s' hf => ?_
    split at hf
    next table _ =>
      obtain ⟨-, rfl⟩ := Prod.mk.inj (Except.ok.inj hf)
      exact hview s table
    · cases hf

theorem batchDelete_leaves (ctx : Context) (groupId : Uuid) (userIds : List Uuid) :
    Faulty.Leaves view (batchDelete ctx groupId userIds) := by
  unfold batchDelete
  split
  · exact Faulty.leaves_pure ()
  · exact Faulty.leaves_write fun s => hview s _

end Leaves

theorem insertAll_ok {memberships : List UserGroupMembership}
    (h : insertAll memberships w = (.ok u, w')) :
    MembershipsNow w.state w'.state fun m =>
      m ∈ w.state.db.memberships.rows ∨ m ∈ memberships := by
  have hcall := Faulty.call_ok h
  split at hcall
  next table htable =>
    refine ⟨table, (Prod.mk.inj (Except.ok.inj hcall)).2.symm, fun m => ?_⟩
    rw [Keyed.insertAll_rows htable, List.mem_append]
  · cases hcall

theorem deleteWhere_ok {p : UserGroupMembership → Bool}
    (h : deleteWhere p w = (.ok u, w')) :
    MembershipsNow w.state w'.state fun m =>
      m ∈ w.state.db.memberships.rows ∧ p m = false := by
  refine ⟨w.state.db.memberships.deleteWhere p, writeDb_ok h, fun m => ?_⟩
  exact Keyed.mem_deleteWhere

theorem batchInsert_ok {ctx : Context} {groupId : Uuid} {userIds : List Uuid}
    (h : batchInsert ctx groupId userIds w = (.ok u, w')) :
    MembershipsNow w.state w'.state fun m => m ∈ w.state.db.memberships.rows ∨
      (m.tenantCode = ctx.tenantCode ∧ m.groupId = groupId ∧ m.userId ∈ userIds) := by
  unfold batchInsert at h
  split at h
  next hnil =>
    obtain ⟨-, rfl⟩ := Faulty.pure_ok.mp h
    refine (MembershipsNow.refl _).congr fun m => ?_
    simp only [hnil, List.not_mem_nil, and_false, or_false]
  · refine (insertAll_ok h).congr fun m => or_congr_right ?_
    simp only [List.mem_map]
    constructor
    · rintro ⟨userId, hmem, rfl⟩
      exact ⟨rfl, rfl, hmem⟩
    · rintro ⟨htenant, hgroup, hmem⟩
      exact ⟨m.userId, hmem, by rw [← htenant, ← hgroup]⟩

theorem batchDelete_ok {ctx : Context} {groupId : Uuid} {userIds : List Uuid}
    (h : batchDelete ctx groupId userIds w = (.ok u, w')) :
    MembershipsNow w.state w'.state fun m => m ∈ w.state.db.memberships.rows ∧
      ¬(m.tenantCode = ctx.tenantCode ∧ m.groupId = groupId ∧ m.userId ∈ userIds) := by
  unfold batchDelete at h
  split at h
  next hnil =>
    obtain ⟨-, rfl⟩ := Faulty.pure_ok.mp h
    refine (MembershipsNow.refl _).congr fun m => ?_
    simp only [hnil, List.not_mem_nil, and_false, not_false_eq_true, and_true]
  · refine (deleteWhere_ok h).congr fun m => and_congr_right fun _ => ?_
    simp only [Bool.and_eq_false_iff, decide_eq_false_iff_not]
    tauto

end UserGroupMembershipRepository

end AccessService.UserGroups
