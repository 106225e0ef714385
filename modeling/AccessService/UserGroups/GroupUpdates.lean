/-
  AccessService.UserGroups.GroupUpdates

  The five operations that edit a user group: `updateById`, `deactivate` and
  `reactivate` of `user-group-lifecycle.service.ts`, `updateRoleAssignments` of
  `user-group-role-assignment.service.ts` and `updateScope` of
  `user-group-scope.service.ts`.

  Each loads the group, checks the version its caller expects, makes its other
  checks, works out what to write, and writes it in a transaction: the group's row
  first, then its role assignments.  The parts are functions of what they read, so
  that other calls may come in between them.
-/

import AccessService.Lib.Versioned
import AccessService.UserGroups.UserGroupAggregate

namespace AccessService.UserGroups

open AccessService.Js AccessService.Lib AccessService.Pg AccessService.Persistence

-- ============================================================================
-- Requests
-- ============================================================================

structure UpdateUserGroupDto where
  name : String
  description : Option String := none
  scopeType : ScopeType
  scopeRefId : Option String := none
  matchingRule : MatchingRule
  roleIds : Option (List Uuid) := none
  confirmed : Option Bool := none
  deriving DecidableEq

structure UpdateUserGroupRolesDto where
  roleIds : List Uuid
  expectedVersion : Int
  confirmed : Option Bool := none
  deriving DecidableEq

structure UpdateUserGroupScopeDto where
  scopeType : String
  scopeRefId : Option String := none
  expectedVersion : Int
  confirmed : Option Bool := none
  deriving DecidableEq

inductive GroupRequest where
  | updateById (dto : UpdateUserGroupDto) (expectedVersion : Int)
  | deactivate (expectedVersion : Int) (confirmed : Bool)
  | reactivate (expectedVersion : Int)
  | updateRoleAssignments (dto : UpdateUserGroupRolesDto)
  | updateScope (dto : UpdateUserGroupScopeDto)
  deriving DecidableEq

def GroupRequest.expectedVersion : GroupRequest → Int
  | .updateById _ expectedVersion => expectedVersion
  | .deactivate expectedVersion _ => expectedVersion
  | .reactivate expectedVersion => expectedVersion
  | .updateRoleAssignments dto => dto.expectedVersion
  | .updateScope dto => dto.expectedVersion

/-- A request and the user who makes it. -/
structure GroupCall where
  request : GroupRequest
  userId : Option Uuid
  deriving DecidableEq

-- ============================================================================
-- What the operations read
-- ============================================================================

/-- The group's row and the roles assigned to it. -/
structure StoredGroup where
  row : UserGroupRow
  /-- `uq_user_group_roles_tenant_group_role` -/
  roles : Keyed Uuid id

/-- What the other tables answer to a call's checks. -/
structure Answers where
  /-- The id of the group that has the new name. -/
  findByName : Option Uuid := none
  memberCount : Nat := 0
  /-- Those of the listed roles that exist and are ACTIVE. -/
  activeRoleIds : List Uuid := []
  zeroRoleMembers : Nat := 0
  deriving DecidableEq

def HIGH_IMPACT_THRESHOLD : Nat := 100

/-- `findRoleIdsByGroupId`, which selects with `onlyIds`: what the base repository
    answers for the group's rows. -/
abbrev OnlyIds := List Uuid → List Uuid

-- ============================================================================
-- The checks
-- ============================================================================

namespace UserGroupImpactService

structure RoleAssignmentImpactEstimate where
  affectedUserCount : Nat
  zeroRoleUserCount : Nat
  requiresConfirmation : Bool
  deriving DecidableEq

def estimateRoleAssignmentImpact (currentRoleIds targetRoleIds : List Uuid) (answers : Answers) :
    RoleAssignmentImpactEstimate :=
  let addedRoleIds := targetRoleIds.filter fun id => id ∉ currentRoleIds
  let removedRoleIds := currentRoleIds.filter fun id => id ∉ targetRoleIds
  if addedRoleIds.length = 0 ∧ removedRoleIds.length = 0 then ⟨0, 0, false⟩
  else
    { affectedUserCount := answers.memberCount
      zeroRoleUserCount :=
        if removedRoleIds.length > 0 ∧ answers.memberCount > 0 then answers.zeroRoleMembers else 0
      requiresConfirmation := answers.memberCount ≥ HIGH_IMPACT_THRESHOLD }

end UserGroupImpactService

/-- `if (count >= threshold && !confirmed) throw ..`. -/
def checkImpact (answers : Answers) (confirmed : Bool) : Except UserGroupError Unit :=
  if answers.memberCount ≥ HIGH_IMPACT_THRESHOLD ∧ confirmed = false then
    .error (.highImpactConfirmationRequired answers.memberCount none HIGH_IMPACT_THRESHOLD)
  else .ok ()

def checkName (existing : UserGroupEntity) (name : String) (answers : Answers) :
    Except UserGroupError Unit :=
  if trim name ≠ existing.name then
    match answers.findByName with
    | some id =>
      if id ≠ existing.id then .error (.duplicateName (trim name)) else .ok ()
    | none => .ok ()
  else .ok ()

def ruleKeys (rule : MatchingRule) : Except UserGroupError (List String) :=
  match MatchingRuleValidator.validate rule with
  | .ok keys => .ok keys
  | .error e => .error (.invalidMatchingRule e.message)

def checkRoles (targetRoleIds : List Uuid) (answers : Answers) : Except UserGroupError Unit :=
  let validRoleIds := targetRoleIds.filter fun id => id ∈ answers.activeRoleIds
  if validRoleIds.length ≠ targetRoleIds.length then
    .error (.invalidRoleAssignment (targetRoleIds.filter fun id => id ∉ answers.activeRoleIds))
  else .ok ()

/-- The checks between the version check and the reads that the change is worked
    out from; `currentRoleIds` is what the impact estimate reads. -/
def validate (call : GroupCall) (existing : UserGroupEntity) (currentRoleIds : List Uuid)
    (answers : Answers) : Except UserGroupError Unit :=
  match call.request with
  | .updateById dto _ => do
    checkName existing dto.name answers
    let _ ← ruleKeys dto.matchingRule
    checkImpact answers (dto.confirmed = some true)
  | .deactivate _ confirmed => checkImpact answers confirmed
  | .reactivate _ => .ok ()
  | .updateRoleAssignments dto => do
    let targetRoleIds := setOf dto.roleIds
    checkRoles targetRoleIds answers
    let impact := UserGroupImpactService.estimateRoleAssignmentImpact currentRoleIds
      targetRoleIds answers
    if impact.requiresConfirmation = true ∧ dto.confirmed ≠ some true then
      .error (.highImpactConfirmationRequired impact.affectedUserCount
        (some impact.zeroRoleUserCount) HIGH_IMPACT_THRESHOLD)
    else .ok ()
  | .updateScope dto => do
    let _ ← UserGroupScopeValidator.validate dto.scopeType dto.scopeRefId
    checkImpact answers (dto.confirmed = some true)

-- ============================================================================
-- The change
-- ============================================================================

/-- What the transaction writes. -/
structure Change where
  entity : UserGroupEntity
  removedRoleIds : List Uuid := []
  addedRoleIds : List Uuid := []
  deriving DecidableEq

namespace UserGroupLifecycleService

def updateById (dto : UpdateUserGroupDto) (userId : Option Uuid) (existing : UserGroupEntity)
    (groupRoles : List Uuid) : Except UserGroupError Change := do
  let ruleAttributeKeys ← ruleKeys dto.matchingRule
  let newRoleIds := dto.roleIds.getD []
  .ok
    { entity :=
        { existing with
          name := trim dto.name
          description := .ofOptional (dto.description.map trim)
          scopeType := dto.scopeType
          scopeRefId := .ofOptional (dto.scopeRefId.map trim)
          matchingRule := some dto.matchingRule
          ruleAttributeKeys := ruleAttributeKeys
          version := existing.version + 1
          updatedBy := .ofOptional userId }
      removedRoleIds := groupRoles.filter fun id => id ∉ newRoleIds
      addedRoleIds := newRoleIds.filter fun id => id ∉ groupRoles }

/-- `deactivate` and `reactivate` write back the aggregate's status. -/
def withStatus (existing : UserGroupEntity) (aggregate : UserGroupAggregate) : Change where
  entity :=
    { existing with
      status := aggregate.status
      version := aggregate.version
      updatedBy := .ofOptional aggregate.updatedBy }

def deactivate (userId : Option Uuid) (existing : UserGroupEntity) :
    Except UserGroupError Change := do
  let aggregate ← (UserGroupAggregate.reconstruct existing []).deactivate userId
  .ok (withStatus existing aggregate)

def reactivate (userId : Option Uuid) (existing : UserGroupEntity) :
    Except UserGroupError Change := do
  let aggregate ← (UserGroupAggregate.reconstruct existing []).reactivate userId
  .ok (withStatus existing aggregate)

end UserGroupLifecycleService

def UserGroupRoleAssignmentService.updateRoleAssignments (dto : UpdateUserGroupRolesDto)
    (userId : Option Uuid) (existing : UserGroupEntity) (currentRoleIds : List Uuid) : Change :=
  let (aggregate, addedRoleIds, removedRoleIds) :=
    (UserGroupAggregate.reconstruct existing currentRoleIds).replaceRoles (setOf dto.roleIds) userId
  { entity :=
      { existing with
        version := aggregate.version
        updatedBy := .ofOptional aggregate.updatedBy }
    removedRoleIds := removedRoleIds
    addedRoleIds := addedRoleIds }

def UserGroupScopeService.updateScope (dto : UpdateUserGroupScopeDto) (userId : Option Uuid)
    (existing : UserGroupEntity) : Except UserGroupError Change := do
  let aggregate ← (UserGroupAggregate.reconstruct existing []).updateScope dto.scopeType
    dto.scopeRefId userId
  .ok
    { entity :=
        { existing with
          scopeType := aggregate.scopeType
          scopeRefId := aggregate.scopeRefId
          version := aggregate.version
          updatedBy := .ofOptional aggregate.updatedBy } }

/-- What the call will write: `groupRoles` came with the group, `currentRoleIds` is
    read now. -/
def changeOf (call : GroupCall) (existing : UserGroupEntity) (groupRoles currentRoleIds : List Uuid) :
    Except UserGroupError Change :=
  match call.request with
  | .updateById dto _ =>
    UserGroupLifecycleService.updateById dto call.userId existing groupRoles
  | .deactivate _ _ => UserGroupLifecycleService.deactivate call.userId existing
  | .reactivate _ => UserGroupLifecycleService.reactivate call.userId existing
  | .updateRoleAssignments dto =>
    .ok (UserGroupRoleAssignmentService.updateRoleAssignments dto call.userId existing
      currentRoleIds)
  | .updateScope dto => UserGroupScopeService.updateScope dto call.userId existing

/-- Every operation writes the version after the one it has loaded. -/
theorem changeOf_version {call : GroupCall} {existing : UserGroupEntity}
    {groupRoles currentRoleIds : List Uuid} {change : Change}
    (h : changeOf call existing groupRoles currentRoleIds = .ok change) :
    change.entity.version = existing.version + 1 := by
  obtain ⟨request, userId⟩ := call
  cases request with
  | updateById dto expectedVersion =>
    obtain ⟨keys, -, hchange⟩ := Sql.bind_eq_ok.mp h
    cases hchange
    rfl
  | deactivate expectedVersion confirmed =>
    obtain ⟨aggregate, hnext, hchange⟩ := Sql.bind_eq_ok.mp h
    cases hchange
    exact UserGroupAggregate.deactivate_version hnext
  | reactivate expectedVersion =>
    obtain ⟨aggregate, hnext, hchange⟩ := Sql.bind_eq_ok.mp h
    cases hchange
    exact UserGroupAggregate.reactivate_version hnext
  | updateRoleAssignments dto =>
    cases h
    rfl
  | updateScope dto =>
    obtain ⟨aggregate, hnext, hchange⟩ := Sql.bind_eq_ok.mp h
    cases hchange
    exact UserGroupAggregate.updateScope_version hnext

-- ============================================================================
-- The transaction
-- ============================================================================

/-- `batchDelete` and `bulkSave` of the role assignments; neither is called with an
    empty list, which would change nothing. -/
def assignRoles (removedRoleIds addedRoleIds : List Uuid) (roles : Keyed Uuid id) :
    Option (Keyed Uuid id) :=
  (roles.deleteWhere fun id => id ∈ removedRoleIds).insertAll addedRoleIds

/-- The row is saved by its primary key, whatever its version is by now. -/
def Change.write (change : Change) (group : StoredGroup) : Option StoredGroup :=
  (assignRoles change.removedRoleIds change.addedRoleIds group.roles).map fun roles =>
    ⟨change.entity.save group.row, roles⟩

theorem Change.write_version {change : Change} {group group' : StoredGroup}
    (h : change.write group = some group') : group'.row.version = change.entity.version := by
  obtain ⟨roles, -, rfl⟩ := Option.map_eq_some_iff.mp h
  rfl

-- ============================================================================
-- A call on its own
-- ============================================================================

/-- The assignments that are loaded with the group: `updateById` asks for them. -/
def relationRoles (call : GroupCall) (group : StoredGroup) : List Uuid :=
  match call.request with
  | .updateById _ _ => group.roles.rows
  | _ => []

/-- The change a call works out from a group that stays as it is. -/
def changeFrom (onlyIds : OnlyIds) (call : GroupCall) (group : StoredGroup) :
    Except UserGroupError Change :=
  changeOf call (.load group.row) (relationRoles call group) (onlyIds group.roles.rows)

/-- What a call that passes its checks makes of the group when it runs alone. -/
def applyCall (onlyIds : OnlyIds) (call : GroupCall) (group : StoredGroup) : Option StoredGroup :=
  if (group.row.version : Int) ≠ call.request.expectedVersion then none
  else
    match changeFrom onlyIds call group with
    | .ok change => change.write group
    | .error _ => none

/-- User groups as versioned records. -/
def groupRecord (onlyIds : OnlyIds) : Versioned GroupCall StoredGroup where
  version group := group.row.version
  expected call := some call.request.expectedVersion
  apply := applyCall onlyIds

end AccessService.UserGroups
