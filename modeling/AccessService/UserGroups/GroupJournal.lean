/-
  AccessService.UserGroups.GroupJournal

  The events about user groups as a journal: over any run of the operations of the
  administrators, failing ones among them, the events about a group tell its status, its
  name, its version and the roles assigned to it, in the order of the assignments.
-/

import AccessService.Lib.Replay
import AccessService.Lib.Transition
import AccessService.UserGroups.RoleReplacement

namespace AccessService.UserGroups.Administration

open AccessService.Js AccessService.Lib AccessService.Lib.Transition AccessService.Pg
open AccessService.Persistence
open AccessService.Roles (StoredRole)

-- ============================================================================
-- The log
-- ============================================================================

/-- An event about a group, with the two that only a change of the status writes. -/
inductive GroupLogEvent where
  | published (event : UserGroupEvent)
  | deactivated (audit : EventAudit)
  | reactivated (audit : EventAudit)
  deriving DecidableEq

/-- A store, and all events about groups. -/
structure GroupLog where
  store : GroupStore
  log : List GroupLogEvent := []

namespace GroupLog

/-- The log after an operation on the store; one that throws has rolled back. -/
def after {α : Type} (g : GroupLog) : Except UserGroupError (α × GroupStore) → GroupLog
  | .ok (_, s) =>
    { store := s
      log := g.log ++ (s.outbox.drop g.store.outbox.length).map .published }
  | .error _ => g

end GroupLog

namespace UserGroupLifecycleService

/-- The transaction of `deactivate` and of `reactivate`. -/
def saveStatus (ctx : GroupContext) (g : GroupLog) (change : Change)
    (event : EventAudit → GroupLogEvent) : Except UserGroupError (UserGroupEntity × GroupLog) := do
  let s ← g.store.save change.entity
  let syncOutbox := ctx.syncEvent change.entity false
  .ok (change.entity,
    { store := s.publish [syncOutbox]
      log := g.log ++ [event (ctx.audit change.entity), .published syncOutbox] })

def deactivate (ctx : GroupContext) (g : GroupLog) (id : Uuid) (expectedVersion : Int)
    (confirmed : Bool) : Except UserGroupError (UserGroupEntity × GroupLog) := do
  let existing ← g.store.findRequired ctx.tenantCode id
  checkVersion existing expectedVersion
  checkImpact { memberCount := g.store.countByGroup ctx.tenantCode id } confirmed
  let change ← UserGroups.UserGroupLifecycleService.deactivate ctx.userId existing
  saveStatus ctx g change .deactivated

def reactivate (ctx : GroupContext) (g : GroupLog) (id : Uuid) (expectedVersion : Int) :
    Except UserGroupError (UserGroupEntity × GroupLog) := do
  let existing ← g.store.findRequired ctx.tenantCode id
  checkVersion existing expectedVersion
  let change ← UserGroups.UserGroupLifecycleService.reactivate ctx.userId existing
  saveStatus ctx g change .reactivated

end UserGroupLifecycleService

-- ============================================================================
-- Runs
-- ============================================================================

inductive GroupOperation where
  | create (ctx : GroupContext) (newId : Uuid) (dto : CreateUserGroupDto)
  | updateById (ctx : GroupContext) (id : Uuid) (dto : UpdateUserGroupDto) (expectedVersion : Int)
  | deactivate (ctx : GroupContext) (id : Uuid) (expectedVersion : Int) (confirmed : Bool)
  | reactivate (ctx : GroupContext) (id : Uuid) (expectedVersion : Int)
  | updateRoleAssignments (ctx : GroupContext) (id : Uuid) (dto : UpdateUserGroupRolesDto)
  | updateScope (ctx : GroupContext) (id : Uuid) (dto : UpdateUserGroupScopeDto)
  /-- A query of an operation fails. -/
  | failed
  /-- A synchronization job tells a group its projection version. -/
  | projected (tenantCode : String) (id : Uuid) (version : Nat)
  /-- Roles and memberships change, as far as the assignments allow. -/
  | elsewhere (roles : Keyed StoredRole StoredRole.id) (memberships : Keyed UserGroupMembership id)

/-- `updateProjectionVersion` -/
def projectRow (tenantCode : String) (id : Uuid) (version : Nat) (row : UserGroupRow) :
    UserGroupRow :=
  if row.tenantCode = tenantCode ∧ row.id = id then { row with projectionVersion := version }
  else row

theorem projectRow_key (tenantCode : String) (id : Uuid) (version : Nat) (row : UserGroupRow) :
    primaryKey (projectRow tenantCode id version row) = primaryKey row := by
  unfold projectRow
  split <;> rfl

namespace GroupLog

/-- A write by others, which the constraints may refuse. -/
def aside (g : GroupLog) (tables : GroupTables) : GroupLog :=
  match g.store.write tables with
  | .ok s => { g with store := s }
  | .error _ => g

/-- Operations with the log, likewise. -/
def ended {α : Type} (g : GroupLog) : Except UserGroupError (α × GroupLog) → GroupLog
  | .ok (_, g') => g'
  | .error _ => g

def run (g : GroupLog) : GroupOperation → GroupLog
  | .create ctx newId dto => g.after (UserGroupLifecycleService.create ctx g.store newId dto)
  | .updateById ctx id dto expectedVersion =>
    g.after (UserGroupLifecycleService.updateById ctx g.store id dto expectedVersion)
  | .deactivate ctx id expectedVersion confirmed =>
    g.ended (UserGroupLifecycleService.deactivate ctx g id expectedVersion confirmed)
  | .reactivate ctx id expectedVersion =>
    g.ended (UserGroupLifecycleService.reactivate ctx g id expectedVersion)
  | .updateRoleAssignments ctx id dto =>
    g.after (UserGroupRoleAssignmentService.updateRoleAssignments ctx g.store id dto)
  | .updateScope ctx id dto => g.after (UserGroupScopeService.updateScope ctx g.store id dto)
  | .failed => g
  | .projected tenantCode id version =>
    g.aside { g.store.tables with
      groups := g.store.tables.groups.update (projectRow tenantCode id version)
        (projectRow_key tenantCode id version) }
  | .elsewhere roles memberships =>
    g.aside { g.store.tables with roles := roles, memberships := memberships }

/-- No groups, and no events about any. -/
structure Initial (g : GroupLog) : Prop where
  groups : g.store.tables.groups.rows = []
  log : g.log = []

def system : System GroupLog GroupOperation where
  init := Initial
  step g op := some (g.run op)

end GroupLog

-- ============================================================================
-- What the events tell
-- ============================================================================

/-- What the journal keeps of a group. -/
structure GroupSummary where
  status : UserGroupStatus
  name : String
  version : Nat
  roleIds : List Uuid
  deriving DecidableEq

def EventAudit.tell (audit : EventAudit) (group : GroupSummary) : GroupSummary :=
  { group with name := audit.groupName, version := audit.version }

def GroupSummary.adding (roleIds : List Uuid) (group : GroupSummary) : GroupSummary :=
  { group with roleIds := group.roleIds ++ roleIds }

def GroupSummary.removing (roleIds : List Uuid) (group : GroupSummary) : GroupSummary :=
  { group with roleIds := group.roleIds.filter fun id => id ∉ roleIds }

namespace UserGroupEvent

/-- `aggregateId` -/
def groupId : UserGroupEvent → Uuid
  | .created audit _ => audit.userGroupId
  | .updated audit _ _ => audit.userGroupId
  | .rolesAssigned audit _ _ _ => audit.userGroupId
  | .roleUnassigned audit _ _ _ => audit.userGroupId
  | .scopeUpdated audit _ _ => audit.userGroupId
  | .authorizationUpdated userGroupId _ _ _ => userGroupId

/-- The group begins with its first event. -/
def tell : UserGroupEvent → Option GroupSummary → Option GroupSummary
  | .created audit roleIds, _ => some ⟨.ACTIVE, audit.groupName, audit.version, roleIds⟩
  | .updated audit added removed, told =>
    told.map fun group => ((audit.tell group).removing removed).adding added
  | .rolesAssigned audit _ added _, told => told.map fun group => (audit.tell group).adding added
  | .roleUnassigned audit _ removed _, told =>
    told.map fun group => (audit.tell group).removing removed
  | .scopeUpdated audit _ _, told => told.map audit.tell
  | .authorizationUpdated _ _ version _, told =>
    told.map fun group => { group with version := version }

end UserGroupEvent

namespace GroupLogEvent

def groupId : GroupLogEvent → Uuid
  | .published event => event.groupId
  | .deactivated audit => audit.userGroupId
  | .reactivated audit => audit.userGroupId

def tell : GroupLogEvent → Option GroupSummary → Option GroupSummary
  | .published event, told => event.tell told
  | .deactivated audit, told => told.map fun group => { audit.tell group with status := .INACTIVE }
  | .reactivated audit, told => told.map fun group => { audit.tell group with status := .ACTIVE }

end GroupLogEvent

/-- What the events tell of the group. -/
def journalOf (id : Uuid) (log : List GroupLogEvent) : Option GroupSummary :=
  replay GroupLogEvent.groupId GroupLogEvent.tell id log

/-- What there is of the group. -/
def GroupStore.summaryOf (s : GroupStore) (id : Uuid) : Option GroupSummary :=
  (s.tables.groups.rowAt id).map fun row =>
    ⟨row.status, row.name, row.version, s.assignedRoleIds row.tenantCode id⟩

-- ============================================================================
-- What an operation writes
-- ============================================================================

/-- The store has moved on, with new events. -/
structure Journaled (s s' : GroupStore) (events : List GroupLogEvent) : Prop where
  about : ∃ id, (∀ event ∈ events, event.groupId = id) ∧
    s'.summaryOf id = events.foldl (fun told event => event.tell told) (s.summaryOf id) ∧
    ∀ other ≠ id, s'.summaryOf other = s.summaryOf other

namespace GroupStore

variable {s s' : GroupStore} {ctx : GroupContext} {tenantCode : String} {id other : Uuid}
  {row : UserGroupRow} {entity : UserGroupEntity} {change : Change}

theorem rowAt_eq_some {tables : GroupTables} :
    tables.groups.rowAt id = some row ↔ row ∈ tables.groups.rows ∧ row.id = id :=
  Keyed.rowAt_eq_some

/-- The summary of a group is that of its row. -/
theorem summaryOf_group (hrow : s.group tenantCode id = some row) :
    s.summaryOf id =
      some ⟨row.status, row.name, row.version, s.assignedRoleIds tenantCode id⟩ := by
  obtain ⟨hmem, htenant, hid⟩ := group_eq_some.mp hrow
  rw [summaryOf, rowAt_eq_some.mpr ⟨hmem, hid⟩, Option.map_some, htenant]

/-- Rows and assignments that stay. -/
theorem summaryOf_same (hgroups : ∀ row, row.id = id →
      (row ∈ s'.tables.groups.rows ↔ row ∈ s.tables.groups.rows))
    (hroles : ∀ tenantCode, s'.findByGroup tenantCode id = s.findByGroup tenantCode id) :
    s'.summaryOf id = s.summaryOf id := by
  have hrowAt : s'.tables.groups.rowAt id = s.tables.groups.rowAt id := by
    refine Option.ext fun row => ?_
    rw [rowAt_eq_some, rowAt_eq_some]
    exact and_congr_left (hgroups row)
  rw [summaryOf, summaryOf, hrowAt]
  simp only [assignedRoleIds, hroles]

theorem batchDelete_others {roleIds : List Uuid}
    (h : s.batchDelete tenantCode id roleIds = .ok s') (hother : other ≠ id)
    (tenantCode' : String) :
    s'.findByGroup tenantCode' other = s.findByGroup tenantCode' other := by
  rw [findByGroup, (write_eq_ok.mp h).1, Table.find_deleteWhere]
  refine List.filter_eq_self.mpr fun r hr => ?_
  have hgroup : r.2.userGroupId ≠ id := (mem_findByGroup.mp hr).2.2.trans_ne hother
  simp [hgroup]

theorem bulkSave_others {roleIds : List Uuid} (h : s.bulkSave tenantCode id roleIds = .ok s')
    (hother : other ≠ id) (tenantCode' : String) :
    s'.findByGroup tenantCode' other = s.findByGroup tenantCode' other := by
  rw [findByGroup, (write_eq_ok.mp h).1, Table.find, Table.insertAll_rows, List.filter_append]
  refine (congrArg (s.findByGroup tenantCode' other ++ ·) ?_).trans (List.append_nil _)
  refine List.filter_eq_nil_iff.mpr fun r hr => ?_
  obtain ⟨⟨value, n⟩, hvalue, rfl⟩ := List.mem_map.mp hr
  obtain ⟨roleId, -, rfl⟩ := List.mem_map.mp (List.fst_mem_of_mem_zipIdx hvalue)
  simp [hother.symm]

/-- A change of one group leaves the assignments of the others. -/
theorem writeChange_others (h : s.writeChange tenantCode change = .ok s')
    (hother : other ≠ change.entity.id) (tenantCode' : String) :
    s'.findByGroup tenantCode' other = s.findByGroup tenantCode' other := by
  obtain ⟨s₁, hsave, hrest⟩ := Sql.bind_eq_ok.mp h
  obtain ⟨s₂, hdelete, hinsert⟩ := Sql.bind_eq_ok.mp hrest
  rw [bulkSave_others hinsert hother, batchDelete_others hdelete hother, findByGroup, findByGroup,
    (write_eq_ok.mp hsave).1]

/-- What is told of the entity that an operation has saved. -/
def changedSummary (entity : UserGroupEntity) (roleIds : List Uuid) : GroupSummary where
  status := entity.status
  name := entity.name
  version := entity.version
  roleIds := roleIds

theorem writeChange_summary (hrow : s.group tenantCode id = some row) (hid : change.entity.id = id)
    (htenant : change.entity.tenantCode = tenantCode)
    (h : s.writeChange tenantCode change = .ok s') :
    s'.summaryOf id = some (changedSummary change.entity
      (((s.assignedRoleIds tenantCode id).filter fun roleId => roleId ∉ change.removedRoleIds) ++
        change.addedRoleIds)) ∧
    ∀ other ≠ id, s'.summaryOf other = s.summaryOf other := by
  obtain ⟨hedit, hgroup, hrows⟩ := writeChange_ok hrow hid htenant h
  refine ⟨?_, fun other hother => summaryOf_same (fun g hg => hedit.groups g ?_) fun tenantCode' =>
    writeChange_others h (hid ▸ hother) tenantCode'⟩
  · rw [summaryOf_group hgroup, assignedRoleIds_of_rows hrows]
    rfl
  · rw [hg]
    exact hother

theorem save_summary (hrow : s.group tenantCode id = some row) (hid : entity.id = id)
    (htenant : entity.tenantCode = tenantCode) (h : s.save entity = .ok s') :
    s'.summaryOf id = some (changedSummary entity (s.assignedRoleIds tenantCode id)) ∧
    ∀ other ≠ id, s'.summaryOf other = s.summaryOf other := by
  obtain ⟨hedit, hgroup, hroles⟩ := save_ok hrow hid htenant h
  have hsame : ∀ tenantCode' id', s'.findByGroup tenantCode' id' = s.findByGroup tenantCode' id' :=
    fun _ _ => by rw [findByGroup, findByGroup, hroles]
  refine ⟨?_, fun other hother => summaryOf_same (fun g hg => hedit.groups g ?_) fun tenantCode' =>
    hsame tenantCode' other⟩
  · rw [summaryOf_group hgroup, assignedRoleIds, hsame]
    rfl
  · rw [hg]
    exact hother

end GroupStore

-- ============================================================================
-- Each operation
-- ============================================================================

/-- The operation has published events that tell what it has written. -/
def Publishes (s s' : GroupStore) : Prop :=
  ∃ events, s'.outbox = s.outbox ++ events ∧ Journaled s s' (events.map .published)

section Operations

variable {s s' s₁ : GroupStore} {ctx : GroupContext} {id : Uuid} {row : UserGroupRow}
  {entity : UserGroupEntity} {change : Change} {expectedVersion : Int}

/-- A change with the events that tell it. -/
theorem publishes_change {events : List UserGroupEvent}
    (hrow : s.group ctx.tenantCode id = some row) (hid : change.entity.id = id)
    (htenant : change.entity.tenantCode = ctx.tenantCode)
    (hwrite : s.writeChange ctx.tenantCode change = .ok s₁)
    (habout : ∀ event ∈ events, event.groupId = id)
    (htells : events.foldl (fun told event => event.tell told)
        (some ⟨row.status, row.name, row.version, s.assignedRoleIds ctx.tenantCode id⟩) =
      some (GroupStore.changedSummary change.entity
        (((s.assignedRoleIds ctx.tenantCode id).filter fun roleId =>
          roleId ∉ change.removedRoleIds) ++ change.addedRoleIds))) :
    Publishes s (s₁.publish events) := by
  obtain ⟨hsummary, hothers⟩ := GroupStore.writeChange_summary hrow hid htenant hwrite
  obtain ⟨hedit, -⟩ := GroupStore.writeChange_ok hrow hid htenant hwrite
  refine ⟨events, congrArg (· ++ events) hedit.outbox, id, fun event hmem => ?_, ?_, hothers⟩
  · obtain ⟨event', hmem', rfl⟩ := List.mem_map.mp hmem
    exact habout event' hmem'
  · rw [List.foldl_map, GroupStore.summaryOf_group hrow]
    exact hsummary.trans htells.symm

theorem updateById_publishes {dto : UpdateUserGroupDto}
    (h : UserGroupLifecycleService.updateById ctx s id dto expectedVersion = .ok (entity, s')) :
    Publishes s s' := by
  obtain ⟨existing, hfind, h⟩ := Sql.bind_eq_ok.mp h
  obtain ⟨row, hrow, rfl⟩ := GroupStore.findRequired_eq_ok.mp hfind
  obtain ⟨-, -, h⟩ := Sql.bind_eq_ok.mp h
  obtain ⟨-, -, h⟩ := Sql.bind_eq_ok.mp h
  obtain ⟨-, -, h⟩ := Sql.bind_eq_ok.mp h
  obtain ⟨-, -, h⟩ := Sql.bind_eq_ok.mp h
  obtain ⟨change, hchange, h⟩ := Sql.bind_eq_ok.mp h
  obtain ⟨s₁, hwrite, hreturn⟩ := Sql.bind_eq_ok.mp h
  obtain ⟨-, rfl⟩ := Prod.mk.inj (Except.ok.inj hreturn)
  obtain ⟨keys, -, hchange⟩ := Sql.bind_eq_ok.mp hchange
  obtain rfl := Except.ok.inj hchange
  obtain ⟨-, htenant, hid⟩ := GroupStore.group_eq_some.mp hrow
  refine publishes_change hrow hid htenant hwrite (fun event hmem => ?_) rfl
  rcases List.mem_pair.mp hmem with rfl | rfl
  · exact hid
  · exact hid

theorem updateScope_publishes {dto : UpdateUserGroupScopeDto}
    (h : UserGroupScopeService.updateScope ctx s id dto = .ok (entity, s')) : Publishes s s' := by
  obtain ⟨existing, hfind, h⟩ := Sql.bind_eq_ok.mp h
  obtain ⟨row, hrow, rfl⟩ := GroupStore.findRequired_eq_ok.mp hfind
  obtain ⟨-, -, h⟩ := Sql.bind_eq_ok.mp h
  obtain ⟨-, -, h⟩ := Sql.bind_eq_ok.mp h
  obtain ⟨change, hchange, h⟩ := Sql.bind_eq_ok.mp h
  obtain ⟨s₁, hwrite, hreturn⟩ := Sql.bind_eq_ok.mp h
  obtain ⟨-, rfl⟩ := Prod.mk.inj (Except.ok.inj hreturn)
  obtain ⟨aggregate, -, hchange⟩ := Sql.bind_eq_ok.mp hchange
  obtain rfl := Except.ok.inj hchange
  obtain ⟨-, htenant, hid⟩ := GroupStore.group_eq_some.mp hrow
  refine publishes_change hrow hid htenant hwrite (fun event hmem => ?_) ?_
  · rcases List.mem_pair.mp hmem with rfl | rfl
    · exact hid
    · exact hid
  · simp [UserGroupEvent.tell, EventAudit.tell, GroupContext.audit, GroupContext.syncEvent,
      GroupStore.changedSummary, UserGroupEntity.load]

/-- The events of a replacement tell of the roles that go and of those that come. -/
theorem events_tell {targetRoleIds currentRoleIds : List Uuid} {group : GroupSummary}
    (hname : change.entity.name = group.name)
    (hdisjoint : ∀ roleId ∈ change.addedRoleIds, roleId ∉ change.removedRoleIds) :
    (UserGroupRoleAssignmentService.events ctx targetRoleIds currentRoleIds change).foldl
        (fun told event => event.tell told) (some group) =
      some { group with
        version := change.entity.version
        roleIds := (group.roleIds.filter fun roleId => roleId ∉ change.removedRoleIds) ++
          change.addedRoleIds } := by
  have hnil : ∀ list : List Uuid, ¬list.length > 0 → list = [] := fun list h =>
    List.length_eq_zero_iff.mp (Nat.eq_zero_of_not_pos h)
  have hkept : change.addedRoleIds.filter (fun roleId => roleId ∉ change.removedRoleIds) =
      change.addedRoleIds :=
    List.filter_eq_self.mpr fun roleId hmem => decide_eq_true (hdisjoint roleId hmem)
  unfold UserGroupRoleAssignmentService.events
  by_cases hadded : change.addedRoleIds.length > 0
  · by_cases hremoved : change.removedRoleIds.length > 0
    · rw [if_pos hadded, if_pos hremoved]
      simp only [List.foldl_append, List.foldl_cons, List.foldl_nil, UserGroupEvent.tell,
        Option.map_some, GroupSummary.adding, GroupSummary.removing, EventAudit.tell,
        GroupContext.audit, GroupContext.syncEvent, List.filter_append, hkept, hname]
    · rw [if_pos hadded, if_neg hremoved, hnil _ hremoved]
      simp [UserGroupEvent.tell, GroupSummary.adding, EventAudit.tell, GroupContext.audit,
        GroupContext.syncEvent, hname]
  · by_cases hremoved : change.removedRoleIds.length > 0
    · rw [if_neg hadded, if_pos hremoved, hnil _ hadded]
      simp [UserGroupEvent.tell, GroupSummary.removing, EventAudit.tell, GroupContext.audit,
        GroupContext.syncEvent, hname]
    · rw [if_neg hadded, if_neg hremoved, hnil _ hadded, hnil _ hremoved]
      simp [UserGroupEvent.tell, GroupContext.syncEvent]

theorem events_about {targetRoleIds currentRoleIds : List Uuid} {event : UserGroupEvent}
    (hmem : event ∈ UserGroupRoleAssignmentService.events ctx targetRoleIds currentRoleIds change) :
    event.groupId = change.entity.id := by
  unfold UserGroupRoleAssignmentService.events at hmem
  rw [List.mem_append, List.mem_append, List.mem_singleton] at hmem
  rcases hmem with (hmem | hmem) | rfl
  · split at hmem
    · rw [List.mem_singleton.mp hmem]
      rfl
    · cases hmem
  · split at hmem
    · rw [List.mem_singleton.mp hmem]
      rfl
    · cases hmem
  · rfl

theorem updateRoleAssignments_publishes {dto : UpdateUserGroupRolesDto}
    {roles : List AssignedRoleItemDto}
    (h : UserGroupRoleAssignmentService.updateRoleAssignments ctx s id dto = .ok (roles, s')) :
    Publishes s s' := by
  obtain ⟨row, s₁, haccepted, hwrite, rfl⟩ :=
    updateRoleAssignments_eq_ok.mp ⟨roles, h⟩
  obtain ⟨-, htenant, hid⟩ := GroupStore.group_eq_some.mp haccepted.found
  refine publishes_change haccepted.found hid htenant hwrite (fun event hmem => ?_) ?_
  · exact (events_about hmem).trans hid
  · refine (events_tell rfl fun roleId hadded hremoved => ?_).trans rfl
    exact (mem_removed.mp hremoved).2 (mem_added.mp hadded).1

theorem summaryOf_created {s₂ : GroupStore} {roleIds : List Uuid} (hcreate : s.create row = .ok s₁)
    (hroles : s₁.bulkSave row.tenantCode row.id roleIds = .ok s₂) :
    s₂.outbox = s.outbox ∧
    s₂.summaryOf row.id = some ⟨row.status, row.name, row.version, roleIds⟩ ∧
    ∀ other ≠ row.id, s₂.summaryOf other = s.summaryOf other := by
  obtain ⟨houtbox, -, -, hsame, hrows, hnone⟩ := GroupStore.create_ok hcreate
  obtain ⟨hedit, hgroups, hassigned⟩ := GroupStore.bulkSave_ok hroles
  have hkept : ∀ tenantCode id', s₁.findByGroup tenantCode id' = s.findByGroup tenantCode id' :=
    fun _ _ => by rw [GroupStore.findByGroup, GroupStore.findByGroup, hsame]
  have hmem : ∀ g : UserGroupRow, g ∈ s₂.tables.groups.rows ↔ g ∈ s.tables.groups.rows ∨ g = row :=
    fun g => by rw [hgroups, hrows, List.mem_append, List.mem_singleton]
  refine ⟨hedit.outbox.trans houtbox, ?_, fun other hother =>
    GroupStore.summaryOf_same (fun g hg => ?_) fun tenantCode => ?_⟩
  · have hrow : s₂.group row.tenantCode row.id = some row :=
      GroupStore.group_eq_some.mpr ⟨(hmem row).mpr (.inr rfl), rfl, rfl⟩
    rw [GroupStore.summaryOf_group hrow, GroupStore.assignedRoleIds, hassigned, hkept, hnone,
      List.nil_append, GroupStore.newRows_roleIds]
  · have hne : g ≠ row := by
      rintro rfl
      exact hother hg.symm
    rw [hmem, or_iff_left hne]
  · rw [GroupStore.bulkSave_others hroles hother, hkept]

/-- A new group, with the roles that come with it. -/
theorem create_publishes {newId : Uuid} {dto : CreateUserGroupDto}
    (h : UserGroupLifecycleService.create ctx s newId dto = .ok (entity, s')) : Publishes s s' := by
  obtain ⟨-, -, h⟩ := Sql.bind_eq_ok.mp h
  obtain ⟨row, haggregate, h⟩ := Sql.bind_eq_ok.mp h
  obtain ⟨s₁, hcreate, h⟩ := Sql.bind_eq_ok.mp h
  obtain ⟨s₂, hroles, hreturn⟩ := Sql.bind_eq_ok.mp h
  obtain ⟨-, rfl⟩ := Prod.mk.inj (Except.ok.inj hreturn)
  obtain ⟨htenant, hstatus⟩ : row.tenantCode = ctx.tenantCode ∧ row.status = .ACTIVE := by
    unfold UserGroupAggregate.create at haggregate
    split at haggregate
    · cases haggregate
    · obtain ⟨keys, -, hrow⟩ := Sql.bind_eq_ok.mp haggregate
      obtain rfl := Except.ok.inj hrow
      exact ⟨rfl, rfl⟩
  rw [← htenant] at hroles
  obtain ⟨houtbox, hsummary, hothers⟩ := summaryOf_created hcreate hroles
  refine ⟨_, congrArg (· ++ _) houtbox, row.id, fun event hmem => ?_, ?_, hothers⟩
  · obtain ⟨event', hmem', rfl⟩ := List.mem_map.mp hmem
    rcases List.mem_pair.mp hmem' with rfl | rfl
    · rfl
    · rfl
  · refine hsummary.trans ?_
    rw [hstatus]
    rfl

/-- A change of the status. -/
theorem saveStatus_tells {g g' : GroupLog} {event : EventAudit → GroupLogEvent}
    (hrow : g.store.group ctx.tenantCode id = some row) (hid : change.entity.id = id)
    (htenant : change.entity.tenantCode = ctx.tenantCode)
    (habout : ∀ audit, (event audit).groupId = audit.userGroupId)
    (htells : ∀ roleIds, (event (ctx.audit change.entity)).tell
        (some ⟨row.status, row.name, row.version, roleIds⟩) =
      some (GroupStore.changedSummary change.entity roleIds))
    (h : UserGroupLifecycleService.saveStatus ctx g change event = .ok (entity, g')) :
    ∃ events, g'.log = g.log ++ events ∧ Journaled g.store g'.store events := by
  obtain ⟨s₁, hsave, hreturn⟩ := Sql.bind_eq_ok.mp h
  obtain ⟨-, rfl⟩ := Prod.mk.inj (Except.ok.inj hreturn)
  obtain ⟨hsummary, hothers⟩ := GroupStore.save_summary hrow hid htenant hsave
  refine ⟨_, rfl, id, fun event' hmem => ?_, ?_, hothers⟩
  · rcases List.mem_pair.mp hmem with rfl | rfl
    · exact (habout _).trans hid
    · exact hid
  · rw [GroupStore.summaryOf_group hrow, List.foldl_cons, htells]
    exact hsummary

theorem deactivate_tells {g g' : GroupLog} {confirmed : Bool}
    (h : UserGroupLifecycleService.deactivate ctx g id expectedVersion confirmed =
      .ok (entity, g')) :
    ∃ events, g'.log = g.log ++ events ∧ Journaled g.store g'.store events := by
  obtain ⟨existing, hfind, h⟩ := Sql.bind_eq_ok.mp h
  obtain ⟨row, hrow, rfl⟩ := GroupStore.findRequired_eq_ok.mp hfind
  obtain ⟨-, -, h⟩ := Sql.bind_eq_ok.mp h
  obtain ⟨-, -, h⟩ := Sql.bind_eq_ok.mp h
  obtain ⟨change, hchange, hsave⟩ := Sql.bind_eq_ok.mp h
  obtain ⟨aggregate, haggregate, hchange⟩ := Sql.bind_eq_ok.mp hchange
  obtain rfl := Except.ok.inj hchange
  obtain ⟨-, htenant, hid⟩ := GroupStore.group_eq_some.mp hrow
  unfold UserGroups.UserGroupAggregate.deactivate at haggregate
  split at haggregate
  · cases haggregate
  · obtain rfl := Except.ok.inj haggregate
    exact saveStatus_tells hrow hid htenant (fun _ => rfl) (fun _ => rfl) hsave

theorem reactivate_tells {g g' : GroupLog}
    (h : UserGroupLifecycleService.reactivate ctx g id expectedVersion = .ok (entity, g')) :
    ∃ events, g'.log = g.log ++ events ∧ Journaled g.store g'.store events := by
  obtain ⟨existing, hfind, h⟩ := Sql.bind_eq_ok.mp h
  obtain ⟨row, hrow, rfl⟩ := GroupStore.findRequired_eq_ok.mp hfind
  obtain ⟨-, -, h⟩ := Sql.bind_eq_ok.mp h
  obtain ⟨change, hchange, hsave⟩ := Sql.bind_eq_ok.mp h
  obtain ⟨aggregate, haggregate, hchange⟩ := Sql.bind_eq_ok.mp hchange
  obtain rfl := Except.ok.inj hchange
  obtain ⟨-, htenant, hid⟩ := GroupStore.group_eq_some.mp hrow
  unfold UserGroups.UserGroupAggregate.reactivate at haggregate
  split at haggregate
  · cases haggregate
  · obtain rfl := Except.ok.inj haggregate
    exact saveStatus_tells hrow hid htenant (fun _ => rfl) (fun _ => rfl) hsave

end Operations

-- ============================================================================
-- The journal
-- ============================================================================

namespace GroupLog

/-- The events tell what there is, of every group. -/
def Told (g : GroupLog) : Prop := ∀ id, journalOf id g.log = g.store.summaryOf id

theorem Told.journaled {g : GroupLog} {s : GroupStore} {events : List GroupLogEvent}
    (hg : g.Told) (h : Journaled g.store s events) :
    Told { store := s, log := g.log ++ events } := by
  obtain ⟨id, habout, hsummary, hothers⟩ := h
  intro other
  show replay _ _ other (g.log ++ events) = s.summaryOf other
  by_cases hid : other = id
  · rw [hid, replay_append_all habout, hsummary]
    exact congrArg (List.foldl _ · events) (hg id)
  · rw [hothers other hid, ← hg other]
    exact replay_append_others fun event hmem => (habout event hmem).trans_ne (Ne.symm hid)

theorem Told.after {α : Type} {g : GroupLog} {run : Except UserGroupError (α × GroupStore)}
    (hg : g.Told) (h : ∀ a s, run = .ok (a, s) → Publishes g.store s) : (g.after run).Told := by
  rcases run with e | ⟨a, s⟩
  · exact hg
  · obtain ⟨events, houtbox, hjournaled⟩ := h a s rfl
    have hnew : s.outbox.drop g.store.outbox.length = events := by
      rw [houtbox, List.drop_left]
    rw [GroupLog.after, hnew]
    exact hg.journaled hjournaled

theorem Told.ended {α : Type} {g : GroupLog} {run : Except UserGroupError (α × GroupLog)}
    (hg : g.Told) (h : ∀ a g', run = .ok (a, g') →
      ∃ events, g'.log = g.log ++ events ∧ Journaled g.store g'.store events) :
    (g.ended run).Told := by
  rcases run with e | ⟨a, g'⟩
  · exact hg
  · obtain ⟨events, hlog, hjournaled⟩ := h a g' rfl
    have hstate : g' = { store := g'.store, log := g.log ++ events } := by rw [← hlog]
    rw [GroupLog.ended, hstate]
    exact hg.journaled hjournaled

/-- A write by others leaves what the journal is about. -/
theorem Told.aside {g : GroupLog} {tables : GroupTables} (hg : g.Told)
    (hgroups : ∀ id (roleIds : String → List Uuid), (tables.groups.rowAt id).map (fun row =>
        (⟨row.status, row.name, row.version, roleIds row.tenantCode⟩ : GroupSummary)) =
      (g.store.tables.groups.rowAt id).map fun row =>
        ⟨row.status, row.name, row.version, roleIds row.tenantCode⟩)
    (hroles : tables.groupRoles = g.store.tables.groupRoles) : (g.aside tables).Told := by
  unfold GroupLog.aside
  split
  next s hwrite =>
    obtain ⟨htables, -⟩ := GroupStore.write_eq_ok.mp hwrite
    have hassigned : ∀ tenantCode id,
        s.assignedRoleIds tenantCode id = g.store.assignedRoleIds tenantCode id := by
      intro tenantCode id
      rw [GroupStore.assignedRoleIds, GroupStore.findByGroup, htables, hroles]
      rfl
    intro id
    refine (hg id).trans ?_
    simp only [GroupStore.summaryOf, hassigned, htables]
    exact (hgroups id fun tenantCode => g.store.assignedRoleIds tenantCode id).symm
  · exact hg

theorem Told.run {g : GroupLog} (hg : g.Told) (op : GroupOperation) : (g.run op).Told := by
  cases op with
  | create ctx newId dto => exact hg.after fun _ _ => create_publishes
  | updateById ctx id dto expectedVersion => exact hg.after fun _ _ => updateById_publishes
  | deactivate ctx id expectedVersion confirmed => exact hg.ended fun _ _ => deactivate_tells
  | reactivate ctx id expectedVersion => exact hg.ended fun _ _ => reactivate_tells
  | updateRoleAssignments ctx id dto => exact hg.after fun _ _ => updateRoleAssignments_publishes
  | updateScope ctx id dto => exact hg.after fun _ _ => updateScope_publishes
  | failed => exact hg
  | projected tenantCode id version =>
    refine hg.aside (fun id' roleIds => ?_) rfl
    have hrow : (g.store.tables.groups.update (projectRow tenantCode id version)
        (projectRow_key tenantCode id version)).rowAt id' =
        (g.store.tables.groups.rowAt id').map (projectRow tenantCode id version) :=
      Keyed.find?_update (projectRow_key tenantCode id version) fun row => by
        rw [projectRow_key]
    rw [hrow, Option.map_map]
    refine congrArg (Option.map · _) (funext fun row => ?_)
    show (⟨(projectRow tenantCode id version row).status, _, _, _⟩ : GroupSummary) = _
    unfold projectRow
    split <;> rfl
  | elsewhere roles memberships => exact hg.aside (fun _ _ => rfl) rfl

/-- Over every run of the operations on user groups, from an empty table, by any administrators
    of any tenants, failing operations and those of others among them, the events about groups
    are a journal of them: an id has been told about just when there is a group with it, and
    what has been told is its status, its name, its version and its roles in the order of
    their assignment. -/
theorem group_journal {g : GroupLog} (h : system.Reachable Always g) (id : Uuid) :
    journalOf id g.log = g.store.summaryOf id := by
  refine h.invariant Told (fun g hinit id => ?_) (fun g op g' _ hg _ hstep => ?_) id
  · have hnone : g.store.tables.groups.rowAt id = none := by
      rw [Keyed.rowAt, hinit.groups]
      rfl
    rw [hinit.log, GroupStore.summaryOf, hnone]
    rfl
  · obtain rfl := Option.some.inj hstep
    exact hg.run op

/-- No group yet, and the two roles of the sample. -/
def unstaffed : GroupLog where
  store :=
    { tables := { staffTables with groups := .empty, groupRoles := .empty }
      constraints := by decide +kernel }

def staffDto : CreateUserGroupDto where
  name := " Staff "
  scopeType := .SELF
  matchingRule := sampleRule
  roleIds := some [auditorRoleId, sampleRoleId]

/-- A group is created, and deactivated by one who has seen it. -/
def staffed : GroupLog :=
  (unstaffed.run (.create acmeAdmin sampleGroupId staffDto)).run
    (.deactivate acmeAdmin sampleGroupId 1 false)

theorem staffed_reachable : system.Reachable Always staffed :=
  ⟨unstaffed, ⟨rfl, rfl⟩, .tail (.single ⟨.create acmeAdmin sampleGroupId staffDto, trivial, rfl⟩)
    ⟨.deactivate acmeAdmin sampleGroupId 1 false, trivial, rfl⟩⟩

theorem group_journal_staffed :
    staffed.store.summaryOf sampleGroupId =
      some ⟨.INACTIVE, "Staff", 2, [auditorRoleId, sampleRoleId]⟩ := by
  have htold : journalOf sampleGroupId staffed.log =
      some ⟨.INACTIVE, "Staff", 2, [auditorRoleId, sampleRoleId]⟩ := by decide +kernel
  exact (group_journal staffed_reachable sampleGroupId).symm.trans htold

end GroupLog

end AccessService.UserGroups.Administration
