/-
  AccessService.UserGroups.UserGroupAggregate

  The row of a user group with the columns that the lifecycle services write, the
  entity they load it into and save it from, and the aggregate that mutates it
  (`user-group.entity.ts`, `user-group.aggregate.ts`,
  `user-group-scope.validator.ts`, `user-group.exceptions.ts`).
-/

import AccessService.Js.Collections
import AccessService.UserGroups.Repositories

namespace AccessService.UserGroups

open AccessService.Js AccessService.Pg AccessService.Persistence

-- ============================================================================
-- Row and entity
-- ============================================================================

structure UserGroupRow extends UserGroup where
  name : String
  description : Option String := none
  updatedBy : Option Uuid := none

structure UserGroupEntity where
  id : Uuid
  tenantCode : String
  name : String
  description : Column String
  status : UserGroupStatus
  scopeType : ScopeType
  scopeRefId : Column String
  matchingRule : Option MatchingRule
  ruleAttributeKeys : List String
  version : Nat
  projectionVersion : Nat
  updatedBy : Column Uuid
  deriving DecidableEq

namespace UserGroupEntity

def load (row : UserGroupRow) : UserGroupEntity where
  id := row.id
  tenantCode := row.tenantCode
  name := row.name
  description := .ofRow row.description
  status := row.status
  scopeType := row.scopeType
  scopeRefId := .ofRow row.scopeRefId
  matchingRule := row.matchingRule
  ruleAttributeKeys := row.ruleAttributeKeys
  version := row.version
  projectionVersion := row.projectionVersion
  updatedBy := .ofRow row.updatedBy

/-- `save`: an UPDATE of the row by its primary key. -/
def save (e : UserGroupEntity) (row : UserGroupRow) : UserGroupRow where
  id := row.id
  tenantCode := e.tenantCode
  status := e.status
  scopeType := e.scopeType
  scopeRefId := e.scopeRefId.write row.scopeRefId
  matchingRule := e.matchingRule
  ruleAttributeKeys := e.ruleAttributeKeys
  version := e.version
  projectionVersion := e.projectionVersion
  name := e.name
  description := e.description.write row.description
  updatedBy := e.updatedBy.write row.updatedBy

/-- An entity that nobody has touched writes the row it was loaded from. -/
theorem save_load (row : UserGroupRow) : (load row).save row = row := by
  simp only [save, load, Column.write_ofRow]

end UserGroupEntity

-- ============================================================================
-- Errors
-- ============================================================================

inductive UserGroupError where
  | concurrentModification
  | duplicateName (name : String)
  | highImpactConfirmationRequired (affectedUserCount : Nat) (zeroRoleUserCount : Option Nat)
      (threshold : Nat)
  | invalidMatchingRule (message : String)
  | invalidRoleAssignment (invalidRoleIds : List Uuid)
  | invalidScope (message : String)
  | invalidStateTransition (message : String)
  /-- A constraint of the database, or a call that did not get through. -/
  | queryFailed
  deriving DecidableEq

def UserGroupError.message : UserGroupError → String
  | .concurrentModification =>
    "User Group was modified concurrently by another process. Please refresh and try again."
  | .duplicateName name =>
    "User Group with name \"" ++ name ++ "\" already exists in this tenant"
  | .highImpactConfirmationRequired affectedUserCount _ threshold =>
    "High-impact change affects " ++ toString affectedUserCount ++ " users (threshold: " ++
      toString threshold ++ "). Explicit confirmation is required."
  | .invalidMatchingRule message => message
  | .invalidRoleAssignment _ =>
    "Some roles are inactive and cannot be assigned to a User Group"
  | .invalidScope message => message
  | .invalidStateTransition message => message
  | .queryFailed => "query failed"

-- ============================================================================
-- The scope validator
-- ============================================================================

def ScopeType.all : List ScopeType :=
  [.SELF, .DIRECT_REPORTEES, .COMPANY, .LOCATION, .DEPARTMENT, .TENANT_WIDE]

structure ValidatedScopeResult where
  scopeType : ScopeType
  scopeRefId : Option String
  deriving DecidableEq

namespace UserGroupScopeValidator

def ENTITY_ANCHORED_SCOPES : List ScopeType := [.COMPANY, .LOCATION, .DEPARTMENT]

def validate (scopeType : String) (scopeRefId : Option String) :
    Except UserGroupError ValidatedScopeResult :=
  if scopeType = "" then .error (.invalidScope "Scope type is required")
  else
    let normalizedScopeType := if scopeType = "TENANT" then "TENANT_WIDE" else scopeType
    match ScopeType.all.find? fun type => type.text = normalizedScopeType with
    | none =>
      .error (.invalidScope ("Invalid scope type \"" ++ scopeType ++ "\". Valid types are: " ++
        ", ".intercalate (ScopeType.all.map ScopeType.text)))
    | some type =>
      if type ∈ ENTITY_ANCHORED_SCOPES then
        match scopeRefId.map trim with
        | none | some "" =>
          .error (.invalidScope ("Scope reference identifier (scopeRefId) is required for " ++
            "entity-anchored scope type \"" ++ type.text ++ "\""))
        | some refId => .ok ⟨type, some refId⟩
      else .ok ⟨type, none⟩

/-- An accepted scope has a reference exactly when its type is anchored. -/
theorem validate_ok {scopeType : String} {scopeRefId : Option String}
    {result : ValidatedScopeResult} (h : validate scopeType scopeRefId = .ok result) :
    result.scopeRefId.isSome = true ↔ result.scopeType ∈ ENTITY_ANCHORED_SCOPES := by
  unfold validate at h
  split at h
  · cases h
  · simp only at h
    split at h
    · cases h
    next type _ =>
      split at h
      next hanchored =>
        split at h
        · cases h
        · cases h
        · cases h
          exact iff_of_true rfl hanchored
      next hfree =>
        cases h
        exact iff_of_false Bool.false_ne_true hfree

end UserGroupScopeValidator

-- ============================================================================
-- The aggregate
-- ============================================================================

/-- The part of the aggregate that its mutators read and write. -/
structure UserGroupAggregate where
  status : UserGroupStatus
  scopeType : ScopeType
  scopeRefId : Column String
  version : Nat
  assignedRoleIds : List Uuid
  updatedBy : Option Uuid
  deriving DecidableEq

namespace UserGroupAggregate

def reconstruct (userGroup : UserGroupEntity) (currentRoleIds : List Uuid) :
    UserGroupAggregate where
  status := userGroup.status
  scopeType := userGroup.scopeType
  scopeRefId := userGroup.scopeRefId
  version := userGroup.version
  assignedRoleIds := currentRoleIds
  updatedBy := none

def replaceRoles (aggregate : UserGroupAggregate) (targetRoleIds : List Uuid)
    (updatedBy : Option Uuid) : UserGroupAggregate × List Uuid × List Uuid :=
  let uniqueTarget := setOf targetRoleIds
  let addedRoleIds := uniqueTarget.filter fun id => id ∉ aggregate.assignedRoleIds
  let removedRoleIds := aggregate.assignedRoleIds.filter fun id => id ∉ uniqueTarget
  ({ aggregate with
      assignedRoleIds := uniqueTarget
      updatedBy := updatedBy
      version := aggregate.version + 1 }, addedRoleIds, removedRoleIds)

def updateScope (aggregate : UserGroupAggregate) (scopeType : String)
    (scopeRefId : Option String) (updatedBy : Option Uuid) :
    Except UserGroupError UserGroupAggregate := do
  let validated ← UserGroupScopeValidator.validate scopeType scopeRefId
  .ok { aggregate with
    scopeType := validated.scopeType
    scopeRefId := .ofOptional validated.scopeRefId
    updatedBy := updatedBy
    version := aggregate.version + 1 }

def deactivate (aggregate : UserGroupAggregate) (updatedBy : Option Uuid) :
    Except UserGroupError UserGroupAggregate :=
  if aggregate.status = .INACTIVE then
    .error (.invalidStateTransition "User Group is already inactive")
  else
    .ok { aggregate with
      status := .INACTIVE
      updatedBy := updatedBy
      version := aggregate.version + 1 }

def reactivate (aggregate : UserGroupAggregate) (updatedBy : Option Uuid) :
    Except UserGroupError UserGroupAggregate :=
  if aggregate.status = .ACTIVE then
    .error (.invalidStateTransition "User Group is already active")
  else
    .ok { aggregate with
      status := .ACTIVE
      updatedBy := updatedBy
      version := aggregate.version + 1 }

variable {aggregate aggregate' : UserGroupAggregate} {updatedBy : Option Uuid}

theorem updateScope_version {scopeType : String} {scopeRefId : Option String}
    (h : aggregate.updateScope scopeType scopeRefId updatedBy = .ok aggregate') :
    aggregate'.version = aggregate.version + 1 := by
  unfold updateScope at h
  rcases hvalid : UserGroupScopeValidator.validate scopeType scopeRefId with e | validated
  · rw [hvalid] at h
    cases h
  · rw [hvalid] at h
    cases h
    rfl

theorem deactivate_version (h : aggregate.deactivate updatedBy = .ok aggregate') :
    aggregate'.version = aggregate.version + 1 := by
  unfold deactivate at h
  split at h
  · cases h
  · cases h
    rfl

theorem reactivate_version (h : aggregate.reactivate updatedBy = .ok aggregate') :
    aggregate'.version = aggregate.version + 1 := by
  unfold reactivate at h
  split at h
  · cases h
  · cases h
    rfl

end UserGroupAggregate

end AccessService.UserGroups
