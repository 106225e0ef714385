/-
  AccessService.UserGroups.GroupAdministration

  The operations by which an administrator creates and edits a user group, each run
  alone: `create` and `updateById` of `user-group-lifecycle.service.ts`,
  `updateRoleAssignments` of `user-group-role-assignment.service.ts` and `updateScope` of
  `user-group-scope.service.ts`, with the tables they write, the constraints of
  `1724700000000-create-user-groups-and-user-group-roles.ts`, and the events they leave in
  the outbox (`outbox-event.service.ts`).

  An assignment has a primary key of its own.  All writes of an operation are in one
  transaction, so an operation that throws, or whose query fails, leaves the store as it was.
-/

import AccessService.Roles.Role
import AccessService.UserGroups.GroupUpdates

namespace AccessService.UserGroups.Administration

open AccessService.Js AccessService.Lib AccessService.Pg AccessService.Persistence
open AccessService.Roles (RoleType StoredRole)

-- ============================================================================
-- Tables
-- ============================================================================

def primaryKey (row : UserGroupRow) : Uuid := row.id

structure GroupTables where
  groups : Keyed UserGroupRow primaryKey
  groupRoles : Table UserGroupRole
  /-- The primary keys that the database gives to the rows of `groupRoles`. -/
  rowKey : RowId → Uuid
  roles : Keyed StoredRole StoredRole.id
  memberships : Keyed UserGroupMembership id

structure GroupTables.Constraints (t : GroupTables) : Prop where
  uq_user_groups_tenant_name : (t.groups.rows.map fun g => (g.tenantCode, g.name)).Nodup
  /-- `varchar(150)` and `varchar(100)` -/
  width : ∀ g ∈ t.groups.rows, g.name.length ≤ 150 ∧ (g.scopeRefId.getD "").length ≤ 100
  user_group_roles_pkey : (t.groupRoles.rows.map fun r => t.rowKey r.1).Nodup
  uq_user_group_roles_tenant_group_role : (t.groupRoles.rows.map Prod.snd).Nodup
  fk_user_group_roles_user_group :
    ∀ r ∈ t.groupRoles.rows, r.2.userGroupId ∈ t.groups.rows.map primaryKey
  fk_user_group_roles_role : ∀ r ∈ t.groupRoles.rows, r.2.roleId ∈ t.roles.rows.map StoredRole.id

instance (t : GroupTables) : Decidable t.Constraints :=
  decidable_of_iff
    ((t.groups.rows.map fun g => (g.tenantCode, g.name)).Nodup ∧
      (∀ g ∈ t.groups.rows, g.name.length ≤ 150 ∧ (g.scopeRefId.getD "").length ≤ 100) ∧
      (t.groupRoles.rows.map fun r => t.rowKey r.1).Nodup ∧
      (t.groupRoles.rows.map Prod.snd).Nodup ∧
      (∀ r ∈ t.groupRoles.rows, r.2.userGroupId ∈ t.groups.rows.map primaryKey) ∧
      ∀ r ∈ t.groupRoles.rows, r.2.roleId ∈ t.roles.rows.map StoredRole.id)
    ⟨fun ⟨h₁, h₂, h₃, h₄, h₅, h₆⟩ => ⟨h₁, h₂, h₃, h₄, h₅, h₆⟩,
      fun ⟨h₁, h₂, h₃, h₄, h₅, h₆⟩ => ⟨h₁, h₂, h₃, h₄, h₅, h₆⟩⟩

-- ============================================================================
-- Events
-- ============================================================================

/-- What every event about a group says. -/
structure EventAudit where
  userGroupId : Uuid
  groupName : String
  version : Nat
  actorUserId : String
  deriving DecidableEq

inductive UserGroupEvent where
  | created (audit : EventAudit) (roleIds : List Uuid)
  | updated (audit : EventAudit) (addedRoleIds removedRoleIds : List Uuid)
  | rolesAssigned (audit : EventAudit) (assignedRoleIds addedRoleIds previousRoleIds : List Uuid)
  | roleUnassigned (audit : EventAudit)
      (assignedRoleIds removedRoleIds previousRoleIds : List Uuid)
  | scopeUpdated (audit : EventAudit) (previousScope newScope : ValidatedScopeResult)
  /-- AUTHORIZATION_USER_GROUP_UPDATED -/
  | authorizationUpdated (userGroupId : Uuid) (tenantCode : String) (version : Nat)
      (isUrgent : Bool)
  deriving DecidableEq

-- ============================================================================
-- Store
-- ============================================================================

structure GroupStore where
  tables : GroupTables
  constraints : tables.Constraints
  outbox : List UserGroupEvent := []

/-- What a request runs with. -/
structure GroupContext where
  tenantCode : String
  userId : Option Uuid := none

namespace GroupContext

def audit (ctx : GroupContext) (userGroup : UserGroupEntity) : EventAudit where
  userGroupId := userGroup.id
  groupName := userGroup.name
  version := userGroup.version
  actorUserId := (ctx.userId.map (·.text)).getD "SYSTEM"

/-- `fromAuthorizationUserGroupUpdated` -/
def syncEvent (ctx : GroupContext) (userGroup : UserGroupEntity) (isUrgent : Bool) :
    UserGroupEvent :=
  .authorizationUpdated userGroup.id ctx.tenantCode userGroup.version isUrgent

end GroupContext

namespace GroupStore

/-- The tables are written, within the constraints. -/
def write (s : GroupStore) (t : GroupTables) : Except UserGroupError GroupStore :=
  if h : t.Constraints then .ok { s with tables := t, constraints := h }
  else .error .queryFailed

def publish (s : GroupStore) (events : List UserGroupEvent) : GroupStore :=
  { s with outbox := s.outbox ++ events }

-- ============================================================================
-- Queries
-- ============================================================================

def group (s : GroupStore) (tenantCode : String) (id : Uuid) : Option UserGroupRow :=
  s.tables.groups.rows.find? fun g => g.tenantCode = tenantCode && g.id = id

/-- `findById` with `required: true` -/
def findRequired (s : GroupStore) (tenantCode : String) (id : Uuid) :
    Except UserGroupError UserGroupEntity :=
  match s.group tenantCode id with
  | some row => .ok (.load row)
  | none => .error .queryFailed

/-- The id of the group with the name. -/
def findByName (s : GroupStore) (tenantCode name : String) : Option Uuid :=
  (s.tables.groups.rows.find? fun g => g.tenantCode = tenantCode && g.name = name).map primaryKey

/-- The rows of the group's assignments. -/
def findByGroup (s : GroupStore) (tenantCode : String) (userGroupId : Uuid) :
    List (RowId × UserGroupRole) :=
  s.tables.groupRoles.find fun r => r.tenantCode = tenantCode && r.userGroupId = userGroupId

def assignedRoleIds (s : GroupStore) (tenantCode : String) (userGroupId : Uuid) : List Uuid :=
  (s.findByGroup tenantCode userGroupId).map (·.2.roleId)

/-- It asks for `onlyIds`, and gets the primary keys of the rows. -/
def findRoleIdsByGroupId (s : GroupStore) (tenantCode : String) (userGroupId : Uuid) : List Uuid :=
  (s.findByGroup tenantCode userGroupId).map fun r => s.tables.rowKey r.1

/-- The listed roles that are ACTIVE. -/
def findActiveRoles (s : GroupStore) (tenantCode : String) (ids : List Uuid) : List Uuid :=
  (s.tables.roles.rows.filter fun role =>
    role.row.tenantCode = tenantCode && role.id ∈ ids && role.row.status = .ACTIVE).map
      StoredRole.id

def membersOf (s : GroupStore) (tenantCode : String) (groupId : Uuid) : List Uuid :=
  (s.tables.memberships.rows.filter fun m =>
    m.tenantCode = tenantCode && m.groupId = groupId).map (·.userId)

def countByGroup (s : GroupStore) (tenantCode : String) (groupId : Uuid) : Nat :=
  (s.membersOf tenantCode groupId).length

/-- The user has a role through another ACTIVE group. -/
def hasOtherRole (s : GroupStore) (tenantCode : String) (groupId userId : Uuid) : Bool :=
  s.tables.groups.rows.any fun g =>
    g.tenantCode = tenantCode && g.status = .ACTIVE && g.id ≠ groupId &&
      userId ∈ s.membersOf tenantCode g.id && s.findByGroup tenantCode g.id ≠ []

def countZeroRoleMembersAfterUnassign (s : GroupStore) (tenantCode : String) (groupId : Uuid)
    (targetRoleCount : Nat) : Nat :=
  ((s.membersOf tenantCode groupId).filter fun userId =>
    targetRoleCount = 0 && !s.hasOtherRole tenantCode groupId userId).length

-- ============================================================================
-- Writes
-- ============================================================================

/-- `create` of a group -/
def create (s : GroupStore) (row : UserGroupRow) : Except UserGroupError GroupStore :=
  match s.tables.groups.insert row with
  | some groups => s.write { s.tables with groups := groups }
  | none => .error .queryFailed

def saveRow (entity : UserGroupEntity) (row : UserGroupRow) : UserGroupRow :=
  if row.id = entity.id then entity.save row else row

theorem saveRow_key (entity : UserGroupEntity) (row : UserGroupRow) :
    primaryKey (saveRow entity row) = primaryKey row := by
  unfold saveRow
  split <;> rfl

/-- `save` of a group.  Its assignments go with it where they were loaded; nobody has
    touched them, so there is nothing to write. -/
def save (s : GroupStore) (entity : UserGroupEntity) : Except UserGroupError GroupStore :=
  s.write { s.tables with
    groups := s.tables.groups.update (saveRow entity) (saveRow_key entity) }

def batchDelete (s : GroupStore) (tenantCode : String) (userGroupId : Uuid)
    (roleIds : List Uuid) : Except UserGroupError GroupStore :=
  s.write { s.tables with
    groupRoles := s.tables.groupRoles.deleteWhere fun r =>
      r.2.tenantCode = tenantCode && r.2.userGroupId = userGroupId && r.2.roleId ∈ roleIds }

def bulkSave (s : GroupStore) (tenantCode : String) (userGroupId : Uuid)
    (roleIds : List Uuid) : Except UserGroupError GroupStore :=
  s.write { s.tables with
    groupRoles := s.tables.groupRoles.insertAll
      (roleIds.map fun roleId => ⟨tenantCode, userGroupId, roleId⟩) }

/-- The part of a transaction before the outbox.  Empty lists change nothing. -/
def writeChange (s : GroupStore) (tenantCode : String) (change : Change) :
    Except UserGroupError GroupStore := do
  let s ← s.save change.entity
  let s ← s.batchDelete tenantCode change.entity.id change.removedRoleIds
  s.bulkSave tenantCode change.entity.id change.addedRoleIds

end GroupStore

-- ============================================================================
-- Checks
-- ============================================================================

def checkVersion (existing : UserGroupEntity) (expectedVersion : Int) :
    Except UserGroupError Unit :=
  if (existing.version : Int) ≠ expectedVersion then .error .concurrentModification else .ok ()

def checkConfirmed (impact : UserGroupImpactService.RoleAssignmentImpactEstimate)
    (confirmed : Option Bool) : Except UserGroupError Unit :=
  if impact.requiresConfirmation = true ∧ confirmed ≠ some true then
    .error (.highImpactConfirmationRequired impact.affectedUserCount
      (some impact.zeroRoleUserCount) HIGH_IMPACT_THRESHOLD)
  else .ok ()

def UserGroupImpactService.estimateRoleAssignmentImpact (ctx : GroupContext) (s : GroupStore)
    (userGroupId : Uuid) (targetRoleIds : List Uuid) :
    UserGroups.UserGroupImpactService.RoleAssignmentImpactEstimate :=
  match s.group ctx.tenantCode userGroupId with
  | none => ⟨0, 0, false⟩
  | some _ =>
    UserGroups.UserGroupImpactService.estimateRoleAssignmentImpact
      (s.findRoleIdsByGroupId ctx.tenantCode userGroupId) targetRoleIds
      { memberCount := s.countByGroup ctx.tenantCode userGroupId
        zeroRoleMembers := s.countZeroRoleMembersAfterUnassign ctx.tenantCode userGroupId
          targetRoleIds.length }

-- ============================================================================
-- Creation
-- ============================================================================

structure CreateUserGroupDto where
  name : String
  description : Option String := none
  scopeType : ScopeType
  scopeRefId : Option String := none
  matchingRule : MatchingRule
  roleIds : Option (List Uuid) := none
  deriving DecidableEq

structure UserGroupProps where
  tenantCode : String
  name : String
  description : Option String
  scopeType : ScopeType
  scopeRefId : Option String
  matchingRule : MatchingRule
  assignedRoleIds : List Uuid
  updatedBy : Option Uuid

def CreateUserGroupDto.props (ctx : GroupContext) (dto : CreateUserGroupDto) : UserGroupProps where
  tenantCode := ctx.tenantCode
  name := trim dto.name
  description := dto.description.map trim
  scopeType := dto.scopeType
  scopeRefId := dto.scopeRefId.map trim
  matchingRule := dto.matchingRule
  assignedRoleIds := dto.roleIds.getD []
  updatedBy := ctx.userId

/-- The group as it is inserted, with the id it gets; the aggregate checks its name and its
    rule. -/
def UserGroupAggregate.create (id : Uuid) (props : UserGroupProps) :
    Except UserGroupError UserGroupRow :=
  if trim props.name = "" then .error (.invalidScope "User Group name cannot be empty")
  else do
    let ruleAttributeKeys ← ruleKeys props.matchingRule
    .ok
      { id := id
        tenantCode := props.tenantCode
        name := props.name
        description := props.description
        status := .ACTIVE
        scopeType := props.scopeType
        scopeRefId := props.scopeRefId
        matchingRule := some props.matchingRule
        ruleAttributeKeys := ruleAttributeKeys
        version := 1
        projectionVersion := 0
        updatedBy := props.updatedBy }

namespace UserGroupLifecycleService

def validateName (ctx : GroupContext) (s : GroupStore) (name : String) :
    Except UserGroupError Unit :=
  match s.findByName ctx.tenantCode (trim name) with
  | some _ => .error (.duplicateName (trim name))
  | none => .ok ()

/-- `newId` is the id that the database gives to the group. -/
def create (ctx : GroupContext) (s : GroupStore) (newId : Uuid) (dto : CreateUserGroupDto) :
    Except UserGroupError (UserGroupEntity × GroupStore) := do
  validateName ctx s dto.name
  let row ← UserGroupAggregate.create newId (dto.props ctx)
  let s ← s.create row
  let roleIds := dto.roleIds.getD []
  let s ← s.bulkSave ctx.tenantCode row.id roleIds
  let savedGroup := UserGroupEntity.load row
  .ok (savedGroup, s.publish
    [.created (ctx.audit savedGroup) roleIds, ctx.syncEvent savedGroup false])

-- ============================================================================
-- Edits
-- ============================================================================

def updateById (ctx : GroupContext) (s : GroupStore) (id : Uuid) (dto : UpdateUserGroupDto)
    (expectedVersion : Int) : Except UserGroupError (UserGroupEntity × GroupStore) := do
  let existing ← s.findRequired ctx.tenantCode id
  checkVersion existing expectedVersion
  checkName existing dto.name { findByName := s.findByName ctx.tenantCode (trim dto.name) }
  let _ ← ruleKeys dto.matchingRule
  checkImpact { memberCount := s.countByGroup ctx.tenantCode id } (dto.confirmed = some true)
  let change ← UserGroups.UserGroupLifecycleService.updateById dto ctx.userId existing
    (s.assignedRoleIds ctx.tenantCode id)
  let s ← s.writeChange ctx.tenantCode change
  .ok (change.entity, s.publish
    [.updated (ctx.audit change.entity) change.addedRoleIds change.removedRoleIds,
      ctx.syncEvent change.entity false])

end UserGroupLifecycleService

structure AssignedRoleItemDto where
  id : Uuid
  name : String
  type : RoleType
  description : Option String
  /-- The permissions are not loaded. -/
  capabilityCount : Nat := 0
  deriving DecidableEq

namespace UserGroupRoleAssignmentService

def getAssignedRoles (ctx : GroupContext) (s : GroupStore) (userGroupId : Uuid) :
    Except UserGroupError (List AssignedRoleItemDto) := do
  let group ← s.findRequired ctx.tenantCode userGroupId
  .ok ((s.assignedRoleIds ctx.tenantCode group.id).filterMap fun roleId =>
    (s.tables.roles.rows.find? fun role => role.id = roleId).map fun role =>
      { id := role.id
        name := role.row.name
        type := role.row.type
        description := role.row.description })

/-- The events of the transaction, in their order. -/
def events (ctx : GroupContext) (targetRoleIds currentRoleIds : List Uuid) (change : Change) :
    List UserGroupEvent :=
  (if change.addedRoleIds.length > 0 then
    [.rolesAssigned (ctx.audit change.entity) targetRoleIds change.addedRoleIds currentRoleIds]
    else []) ++
  (if change.removedRoleIds.length > 0 then
    [.roleUnassigned (ctx.audit change.entity) targetRoleIds change.removedRoleIds currentRoleIds]
    else []) ++
  [ctx.syncEvent change.entity (change.removedRoleIds.length > 0)]

def updateRoleAssignments (ctx : GroupContext) (s : GroupStore) (userGroupId : Uuid)
    (dto : UpdateUserGroupRolesDto) :
    Except UserGroupError (List AssignedRoleItemDto × GroupStore) := do
  let existing ← s.findRequired ctx.tenantCode userGroupId
  checkVersion existing dto.expectedVersion
  let targetRoleIds := setOf dto.roleIds
  checkRoles targetRoleIds { activeRoleIds := s.findActiveRoles ctx.tenantCode targetRoleIds }
  let impact := UserGroupImpactService.estimateRoleAssignmentImpact ctx s userGroupId targetRoleIds
  checkConfirmed impact dto.confirmed
  let currentRoleIds := s.findRoleIdsByGroupId ctx.tenantCode userGroupId
  let change := UserGroups.UserGroupRoleAssignmentService.updateRoleAssignments dto ctx.userId
    existing currentRoleIds
  let s ← s.writeChange ctx.tenantCode change
  let s := s.publish (events ctx targetRoleIds currentRoleIds change)
  let roles ← getAssignedRoles ctx s userGroupId
  .ok (roles, s)

end UserGroupRoleAssignmentService

namespace UserGroupScopeService

/-- What `estimateScopeImpact` and the check of its answer let through. -/
def checkScopeImpact (ctx : GroupContext) (s : GroupStore) (id : Uuid)
    (dto : UpdateUserGroupScopeDto) : Except UserGroupError Unit := do
  let _ ← s.findRequired ctx.tenantCode id
  let _ ← UserGroupScopeValidator.validate dto.scopeType dto.scopeRefId
  checkImpact { memberCount := s.countByGroup ctx.tenantCode id } (dto.confirmed = some true)

def scopeOf (entity : UserGroupEntity) : ValidatedScopeResult where
  scopeType := entity.scopeType
  scopeRefId := match entity.scopeRefId with
    | .value refId => some refId
    | _ => none

def updateScope (ctx : GroupContext) (s : GroupStore) (id : Uuid) (dto : UpdateUserGroupScopeDto) :
    Except UserGroupError (UserGroupEntity × GroupStore) := do
  let existing ← s.findRequired ctx.tenantCode id
  checkVersion existing dto.expectedVersion
  checkScopeImpact ctx s id dto
  let change ← UserGroups.UserGroupScopeService.updateScope dto ctx.userId existing
  let s ← s.writeChange ctx.tenantCode change
  .ok (change.entity, s.publish
    [.scopeUpdated (ctx.audit change.entity) (scopeOf existing) (scopeOf change.entity),
      ctx.syncEvent change.entity false])

end UserGroupScopeService

-- ============================================================================
-- A small store: a group with one of two roles
-- ============================================================================

def acmeAdmin : GroupContext where
  tenantCode := "acme"

def auditorRoleId : Uuid := ⟨"7c9e6679-0000-4000-8000-000000000002", by decide⟩

def staffTables : GroupTables where
  groups := ⟨[{ sampleUserGroup with name := "Staff" }], List.nodup_singleton _⟩
  groupRoles := Table.empty.insert ⟨"acme", sampleGroupId, sampleRoleId⟩
  rowKey
    | 0 => ⟨"1c0ffee0-0000-4000-8000-000000000000", by decide⟩
    | 1 => ⟨"1c0ffee0-0000-4000-8000-000000000001", by decide⟩
    | _ => ⟨"1c0ffee0-0000-4000-8000-000000000002", by decide⟩
  roles :=
    ⟨[⟨{ id := sampleRoleId, tenantCode := "acme", name := "Reviewer" }, .empty⟩,
      ⟨{ id := auditorRoleId, tenantCode := "acme", name := "Auditor" }, .empty⟩], by decide⟩
  memberships := .empty

def staffStore : GroupStore where
  tables := staffTables
  constraints := by decide +kernel

end AccessService.UserGroups.Administration
