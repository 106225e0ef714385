/-
  AccessService.ImpactAnalysis.ImpactPreviews

  `impact-analysis.service.ts`: what an administrator is shown before a change of a role or
  of a group, with the counts of the repositories that it asks for.  A preview only reads.
-/

import AccessService.ImpactAnalysis.GroupImpact
import AccessService.Roles.RoleEffects

namespace AccessService.ImpactAnalysis

open AccessService.Js AccessService.Lib AccessService.Pg AccessService.Persistence
open AccessService.Roles (RoleStatus StoredRole SystemRoleKey)
open AccessService.UserGroups AccessService.UserGroups.Administration
open AccessService.UserGroups.UserGroupMatchingEngine

-- ============================================================================
-- Requests and answers
-- ============================================================================

structure PreviewRoleImpactDto where
  permissionCodes : Option (List String) := none
  status : Option RoleStatus := none
  deriving DecidableEq

structure PreviewUserGroupImpactDto where
  matchingRule : Option MatchingRule := none
  scopeType : Option ScopeType := none
  scopeRefId : Option String := none
  roleIds : Option (List Uuid) := none
  status : Option UserGroupStatus := none
  deriving DecidableEq

def DEFAULT_HIGH_IMPACT_THRESHOLD : Nat := 100

structure ImpactEstimate where
  usersGaining : Nat
  usersLosing : Nat
  totalAffected : Nat
  isHighImpact : Bool
  threshold : Nat
  isEstimated : Bool
  deriving DecidableEq

structure CoverageLossWarning where
  capabilityCode : String
  priorHoldersCount : Nat
  projectedHoldersCount : Nat
  isCriticalLoss : Bool
  deriving DecidableEq

inductive TargetType where
  | ROLE
  | USER_GROUP
  deriving DecidableEq

structure ImpactAnalysisResult where
  targetType : TargetType
  targetId : Uuid
  estimate : ImpactEstimate
  coverageLoss : Option CoverageLossWarning
  requiresConfirmation : Bool
  deriving DecidableEq

-- ============================================================================
-- Queries
-- ============================================================================

def systemRoleKeyText : SystemRoleKey → String
  | .EMPLOYEE => "EMPLOYEE"
  | .MANAGER => "MANAGER"
  | .ADMINISTRATOR => "ADMINISTRATOR"

namespace AccessStore

def findActiveBuiltInAdminRoles (s : AccessStore) (tenantCode : String) : List StoredRole :=
  s.administration.tables.roles.rows.filter fun role =>
    role.row.tenantCode = tenantCode && role.row.systemRoleKey = some .ADMINISTRATOR &&
      role.row.status = .ACTIVE

/-- The users of the role's effective rows, with repetitions. -/
def usersOfRole (s : AccessStore) (tenantCode : String) (roleId : Uuid)
    (also : UserEffectiveRole → Bool) : List Uuid :=
  (s.base.db.effectiveRoles.rows.filter fun r =>
    r.2.tenantCode = tenantCode && r.2.roleId = roleId && also r.2).map (·.2.userId)

/-- `COUNT(DISTINCT uer.userId)` -/
def countActiveHoldersByRoleId (s : AccessStore) (tenantCode : String) (roleId : Uuid) : Nat :=
  (s.usersOfRole tenantCode roleId fun _ => true).eraseDups.length

def countActiveHoldersExcludingSourceGroup (s : AccessStore) (tenantCode : String)
    (roleId excludedSourceGroupId : Uuid) : Nat :=
  (s.usersOfRole tenantCode roleId fun r =>
    r.sourceGroupId ≠ excludedSourceGroupId).eraseDups.length

/-- A parameter that a column type rejects fails the statement, whatever the rows. -/
def getMatchedEmployeeIds (s : AccessStore) (types : ColumnTypes) (query : MatchingQuery) :
    Except UserGroupError (List Uuid) :=
  match Sql.whereValue types.type (query.params.map QueryParam.bind) (fun _ => none)
    query.conditions with
  | .error _ => .error .queryFailed
  | .ok _ => .ok (s.database.matchedEmployeeIds types query)

end AccessStore

-- ============================================================================
-- Numbers of users
-- ============================================================================

structure CriteriaImpact where
  currentCount : Nat
  proposedCount : Nat
  gainingCount : Nat
  losingCount : Nat
  deriving DecidableEq

/-- `UserGroupPopulationQueryService.estimateCriteriaDiff` -/
def estimateCriteriaDiff (ctx : AccessContext) (s : AccessStore) (groupId : Uuid)
    (proposedRule : MatchingRule) : Except UserGroupError CriteriaImpact := do
  let group ← s.administration.findRequired ctx.tenantCode groupId
  let _ ← ruleKeys proposedRule
  let currentMemberIds := s.administration.membersOf ctx.tenantCode group.id
  let proposedMemberIds ←
    s.getMatchedEmployeeIds ctx.columns (buildMatchingQuery ctx.tenantCode proposedRule)
  let currentSet := setOf currentMemberIds
  let proposedSet := setOf proposedMemberIds
  .ok {
    currentCount := currentMemberIds.length
    proposedCount := proposedMemberIds.length
    gainingCount := (proposedSet.filter fun empId => empId ∉ currentSet).length
    losingCount := (currentSet.filter fun empId => empId ∉ proposedSet).length }

/-- The users gaining, losing and affected. -/
structure Reach where
  usersGaining : Nat
  usersLosing : Nat
  totalAffected : Nat
  deriving DecidableEq

def Reach.estimate (reach : Reach) (threshold : Nat) : ImpactEstimate where
  usersGaining := reach.usersGaining
  usersLosing := reach.usersLosing
  totalAffected := reach.totalAffected
  isHighImpact := reach.totalAffected ≥ threshold
  threshold := threshold
  isEstimated := false

-- ============================================================================
-- The service
-- ============================================================================

namespace ImpactAnalysisService

def capabilityCode (adminRole : StoredRole) : String :=
  match adminRole.row.systemRoleKey with
  | some key => systemRoleKeyText key
  | none => adminRole.row.name

/-- The body of the loop over the administrator roles. -/
def coverageLossOf (s : AccessStore) (tenantCode : String)
    (targetRoleId userGroupIdToRemove : Option Uuid) (adminRole : StoredRole) :
    Option CoverageLossWarning :=
  let priorHoldersCount := s.countActiveHoldersByRoleId tenantCode adminRole.id
  let warning : CoverageLossWarning :=
    { capabilityCode := capabilityCode adminRole
      priorHoldersCount := priorHoldersCount
      projectedHoldersCount := 0
      isCriticalLoss := true }
  if targetRoleId = some adminRole.id ∧ priorHoldersCount > 0 then some warning
  else
    match userGroupIdToRemove with
    | none => none
    | some groupId =>
      if priorHoldersCount > 0 ∧
          s.countActiveHoldersExcludingSourceGroup tenantCode adminRole.id groupId = 0 then
        some warning
      else none

def checkCriticalCapabilityCoverageLoss (ctx : AccessContext) (s : AccessStore)
    (targetRoleId userGroupIdToRemove : Option Uuid) : Option CoverageLossWarning :=
  (s.findActiveBuiltInAdminRoles ctx.tenantCode).findSome?
    (coverageLossOf s ctx.tenantCode targetRoleId userGroupIdToRemove)

def previewRoleImpact (ctx : AccessContext) (s : AccessStore) (roleId : Uuid)
    (dto : PreviewRoleImpactDto) (threshold : Nat) : Except UserGroupError ImpactAnalysisResult :=
  match s.roleStore.role ctx.tenantCode roleId with
  | none => .error .queryFailed
  | some role =>
    let reachCount := s.roleStore.countActiveUserReach ctx.tenantCode role.id
    let coverageLoss := checkCriticalCapabilityCoverageLoss ctx s (some role.id) none
    let reach : Reach :=
      { usersGaining := 0
        usersLosing := if dto.status = some .INACTIVE then reachCount else 0
        totalAffected := reachCount }
    let estimate := reach.estimate threshold
    .ok {
      targetType := .ROLE
      targetId := roleId
      estimate := estimate
      coverageLoss := coverageLoss
      requiresConfirmation := estimate.isHighImpact }

def groupReach (ctx : AccessContext) (s : AccessStore) (groupId : Uuid)
    (dto : PreviewUserGroupImpactDto) : Except UserGroupError Reach :=
  match dto.matchingRule with
  | some rule =>
    (estimateCriteriaDiff ctx s groupId rule).map fun diff =>
      { usersGaining := diff.gainingCount
        usersLosing := diff.losingCount
        totalAffected := diff.gainingCount + diff.losingCount }
  | none =>
    let memberCount := s.administration.countByGroup ctx.tenantCode groupId
    .ok {
      usersGaining := 0
      usersLosing := if dto.status = some .INACTIVE then memberCount else 0
      totalAffected := memberCount }

def checkProposal (dto : PreviewUserGroupImpactDto) : Except UserGroupError Unit := do
  match dto.matchingRule with
  | some rule => let _ ← ruleKeys rule
  | none => pure ()
  match dto.scopeType with
  | some scopeType => let _ ← UserGroupScopeValidator.validate scopeType.text dto.scopeRefId
  | none => pure ()

def previewUserGroupImpact (ctx : AccessContext) (s : AccessStore) (userGroupId : Uuid)
    (dto : PreviewUserGroupImpactDto) (threshold : Nat) :
    Except UserGroupError ImpactAnalysisResult := do
  let group ← s.administration.findRequired ctx.tenantCode userGroupId
  checkProposal dto
  let reach ← groupReach ctx s group.id dto
  let coverageLoss := checkCriticalCapabilityCoverageLoss ctx s none (some group.id)
  let estimate := reach.estimate threshold
  .ok {
    targetType := .USER_GROUP
    targetId := userGroupId
    estimate := estimate
    coverageLoss := coverageLoss
    requiresConfirmation := estimate.isHighImpact }

-- ============================================================================
-- What the previews tell of coverage
-- ============================================================================

variable {ctx : AccessContext} {s : AccessStore} {id : Uuid} {threshold : Nat}
  {result : ImpactAnalysisResult}

theorem previewRoleImpact_coverageLoss {dto : PreviewRoleImpactDto}
    (h : previewRoleImpact ctx s id dto threshold = .ok result) :
    result.coverageLoss = checkCriticalCapabilityCoverageLoss ctx s (some id) none := by
  unfold previewRoleImpact at h
  split at h
  · cases h
  next role hrole =>
    cases h
    obtain ⟨-, -, hid⟩ := Roles.RoleStore.role_eq_some.mp hrole
    show checkCriticalCapabilityCoverageLoss ctx s (some role.id) none = _
    rw [hid]

theorem previewUserGroupImpact_coverageLoss {dto : PreviewUserGroupImpactDto}
    (h : previewUserGroupImpact ctx s id dto threshold = .ok result) :
    (∃ row, s.administration.group ctx.tenantCode id = some row) ∧
      result.coverageLoss = checkCriticalCapabilityCoverageLoss ctx s none (some id) := by
  obtain ⟨group, hfind, h⟩ := Sql.bind_eq_ok.mp h
  obtain ⟨u, -, h⟩ := Sql.bind_eq_ok.mp h
  obtain ⟨reach, -, h⟩ := Sql.bind_eq_ok.mp h
  obtain ⟨row, hrow, rfl⟩ := GroupStore.findRequired_eq_ok.mp hfind
  cases h
  refine ⟨⟨row, hrow⟩, ?_⟩
  show checkCriticalCapabilityCoverageLoss ctx s none (some row.id) = _
  rw [(GroupStore.group_eq_some.mp hrow).2.2]

end ImpactAnalysisService

end AccessService.ImpactAnalysis
