/-
  AccessService.Authorization.CumulativeAccess

  The access decision (`cumulative-access-evaluator.service.ts`): the union, over a user's
  roles, of what each role permits within its own scope.
-/

import AccessService.Js.Collections

namespace AccessService.Authorization.CumulativeAccessEvaluator

open AccessService.Js

/-- A scope's type is a plain string here. -/
structure ScopeConstraint where
  type : String
  refId : Option String
  deriving DecidableEq

structure EffectiveUserRole where
  roleId : String
  scope : ScopeConstraint
  sourceGroupId : String
  deriving DecidableEq

/-- What the resource says of itself. -/
structure ResourceContext where
  employeeId : Option String := none
  managerId : Option String := none
  companyId : Option String := none
  locationId : Option String := none
  departmentId : Option String := none
  deriving DecidableEq

/-- `!!value && value === other` -/
def isEmployee (value : Option String) (currentEmployeeId : String) : Bool :=
  match value with
  | none => false
  | some id => id ≠ "" && id = currentEmployeeId

-- `String.prototype.toLowerCase` is a parameter: no result depends on what it folds.
variable (toLowerCase : String → String)

/-- `!!scopeRefId && !!value && value.toLowerCase() === scopeRefId.toLowerCase()` -/
def isAnchoredAt (scopeRefId value : Option String) : Bool :=
  match scopeRefId, value with
  | some refId, some id => refId ≠ "" && id ≠ "" && toLowerCase id = toLowerCase refId
  | _, _ => false

def evaluateScope (scopeType : String) (scopeRefId : Option String)
    (targetResource : ResourceContext) (currentEmployeeId : String) : Bool :=
  match scopeType with
  | "TENANT" | "TENANT_WIDE" => true
  | "SELF" => isEmployee targetResource.employeeId currentEmployeeId
  | "DIRECT_REPORTEES" => isEmployee targetResource.managerId currentEmployeeId
  | "COMPANY" => isAnchoredAt toLowerCase scopeRefId targetResource.companyId
  | "LOCATION" => isAnchoredAt toLowerCase scopeRefId targetResource.locationId
  | "DEPARTMENT" => isAnchoredAt toLowerCase scopeRefId targetResource.departmentId
  | _ => false

/-- `perms ? perms.includes(requiredPermission) : false` -/
def grantsPermission (requiredPermission : String) (rolePermissionsMap : JsMap String (List String))
    (userRole : EffectiveUserRole) : Bool :=
  match rolePermissionsMap.get userRole.roleId with
  | some perms => requiredPermission ∈ perms
  | none => false

/-- The loop over the granting roles, left at the first scope that is satisfied. -/
def anyScopeSatisfied (targetResource : ResourceContext) (currentEmployeeId : String) :
    List EffectiveUserRole → Bool
  | [] => false
  | grant :: grants =>
    if evaluateScope toLowerCase grant.scope.type grant.scope.refId targetResource
        currentEmployeeId then true
    else anyScopeSatisfied targetResource currentEmployeeId grants

def evaluateAccess (requiredPermission : String) (userRoles : List EffectiveUserRole)
    (rolePermissionsMap : JsMap String (List String)) (targetResource : ResourceContext)
    (currentEmployeeId : String) : Bool :=
  if userRoles.length = 0 then false
  else
    let grantingRoles := userRoles.filter (grantsPermission requiredPermission rolePermissionsMap)
    if grantingRoles.length = 0 then false
    else anyScopeSatisfied toLowerCase targetResource currentEmployeeId grantingRoles

-- ============================================================================
-- What a role gives
-- ============================================================================

/-- The map lists the permission for the role. -/
def HasPermission (rolePermissionsMap : JsMap String (List String)) (roleId permission : String) :
    Prop :=
  ∃ perms, rolePermissionsMap.get roleId = some perms ∧ permission ∈ perms

/-- The reference that an anchored scope is compared with is there, and so is the
    resource's; they are equal up to case. -/
def SameUnit (refId unit : Option String) : Prop :=
  ∃ r u, refId = some r ∧ unit = some u ∧ r ≠ "" ∧ u ≠ "" ∧ toLowerCase u = toLowerCase r

/-- The resource lies within the scope. -/
inductive Satisfies (resource : ResourceContext) (employeeId : String) : ScopeConstraint → Prop
  | tenant {refId} : Satisfies resource employeeId ⟨"TENANT", refId⟩
  | tenantWide {refId} : Satisfies resource employeeId ⟨"TENANT_WIDE", refId⟩
  | self {refId} (hid : employeeId ≠ "") (hself : resource.employeeId = some employeeId) :
    Satisfies resource employeeId ⟨"SELF", refId⟩
  | directReportees {refId} (hid : employeeId ≠ "")
    (hmanager : resource.managerId = some employeeId) :
    Satisfies resource employeeId ⟨"DIRECT_REPORTEES", refId⟩
  | company {refId} (hunit : SameUnit toLowerCase refId resource.companyId) :
    Satisfies resource employeeId ⟨"COMPANY", refId⟩
  | location {refId} (hunit : SameUnit toLowerCase refId resource.locationId) :
    Satisfies resource employeeId ⟨"LOCATION", refId⟩
  | department {refId} (hunit : SameUnit toLowerCase refId resource.departmentId) :
    Satisfies resource employeeId ⟨"DEPARTMENT", refId⟩

/-- The scope is anchored in the organization but nothing says where. -/
def LacksReference (scope : ScopeConstraint) : Prop :=
  scope.type ∈ ["COMPANY", "LOCATION", "DEPARTMENT"] ∧ (scope.refId = none ∨ scope.refId = some "")

variable {toLowerCase} {requiredPermission : String} {userRoles r₁ r₂ : List EffectiveUserRole}
variable {rolePermissionsMap map' : JsMap String (List String)} {targetResource : ResourceContext}
variable {currentEmployeeId : String}

theorem grantsPermission_iff {userRole : EffectiveUserRole} :
    grantsPermission requiredPermission rolePermissionsMap userRole = true ↔
      HasPermission rolePermissionsMap userRole.roleId requiredPermission := by
  unfold grantsPermission HasPermission
  rcases rolePermissionsMap.get userRole.roleId with _ | perms
  · simp
  · simp

theorem isEmployee_iff {value : Option String} :
    isEmployee value currentEmployeeId = true ↔
      currentEmployeeId ≠ "" ∧ value = some currentEmployeeId := by
  unfold isEmployee
  rcases value with _ | id
  · simp
  · simp only [ne_eq, Bool.and_eq_true, decide_eq_true_eq, Option.some.injEq]
    constructor
    · rintro ⟨hid, rfl⟩
      exact ⟨hid, rfl⟩
    · rintro ⟨hid, rfl⟩
      exact ⟨hid, rfl⟩

theorem isAnchoredAt_iff {scopeRefId value : Option String} :
    isAnchoredAt toLowerCase scopeRefId value = true ↔ SameUnit toLowerCase scopeRefId value := by
  unfold isAnchoredAt SameUnit
  rcases scopeRefId with _ | refId
  · simp
  · rcases value with _ | id
    · simp
    · simp [and_assoc]

theorem evaluateScope_iff {scope : ScopeConstraint} :
    evaluateScope toLowerCase scope.type scope.refId targetResource currentEmployeeId = true ↔
      Satisfies toLowerCase targetResource currentEmployeeId scope := by
  obtain ⟨type, refId⟩ := scope
  constructor
  · intro h
    simp only [evaluateScope] at h
    split at h
    · exact .tenant
    · exact .tenantWide
    · exact .self (isEmployee_iff.mp h).1 (isEmployee_iff.mp h).2
    · exact .directReportees (isEmployee_iff.mp h).1 (isEmployee_iff.mp h).2
    · exact .company (isAnchoredAt_iff.mp h)
    · exact .location (isAnchoredAt_iff.mp h)
    · exact .department (isAnchoredAt_iff.mp h)
    · cases h
  · intro h
    cases h with
    | tenant => rfl
    | tenantWide => rfl
    | self hid hself => exact isEmployee_iff.mpr ⟨hid, hself⟩
    | directReportees hid hmanager => exact isEmployee_iff.mpr ⟨hid, hmanager⟩
    | company hunit => exact isAnchoredAt_iff.mpr hunit
    | location hunit => exact isAnchoredAt_iff.mpr hunit
    | department hunit => exact isAnchoredAt_iff.mpr hunit

theorem anyScopeSatisfied_iff {grants : List EffectiveUserRole} :
    anyScopeSatisfied toLowerCase targetResource currentEmployeeId grants = true ↔
      ∃ grant ∈ grants, Satisfies toLowerCase targetResource currentEmployeeId grant.scope := by
  induction grants with
  | nil => simp [anyScopeSatisfied]
  | cons grant grants ih =>
    rw [anyScopeSatisfied, List.exists_mem_cons_iff, ← ih, ← evaluateScope_iff]
    split
    next h => simp [h]
    next h => simp [h]

-- ============================================================================
-- The union
-- ============================================================================

/-- Access is had through one role: its permission and its own scope. -/
theorem evaluateAccess_iff :
    evaluateAccess toLowerCase requiredPermission userRoles rolePermissionsMap targetResource
        currentEmployeeId = true ↔
      ∃ role ∈ userRoles, HasPermission rolePermissionsMap role.roleId requiredPermission ∧
        Satisfies toLowerCase targetResource currentEmployeeId role.scope := by
  have hgrants : evaluateAccess toLowerCase requiredPermission userRoles rolePermissionsMap
        targetResource currentEmployeeId =
      anyScopeSatisfied toLowerCase targetResource currentEmployeeId
        (userRoles.filter (grantsPermission requiredPermission rolePermissionsMap)) := by
    unfold evaluateAccess
    split
    next h =>
      rw [List.length_eq_zero_iff.mp h]
      rfl
    · simp only
      split
      next h =>
        rw [List.length_eq_zero_iff.mp h]
        rfl
      · rfl
  rw [hgrants, anyScopeSatisfied_iff]
  simp only [List.mem_filter, grantsPermission_iff, and_assoc]

theorem not_satisfies_of_lacksReference {scope : ScopeConstraint} (h : LacksReference scope) :
    ¬Satisfies toLowerCase targetResource currentEmployeeId scope := by
  obtain ⟨htype, hrefId⟩ := h
  have hunit : ∀ unit, ¬SameUnit toLowerCase scope.refId unit := by
    rintro unit ⟨r, u, hr, -, hne, -, -⟩
    rcases hrefId with hnone | hempty
    · rw [hnone] at hr
      cases hr
    · rw [hempty] at hr
      exact hne (Option.some.inj hr).symm
  intro hscope
  cases hscope with
  | tenant | tenantWide | self | directReportees => simp at htype
  | company hsame | location hsame | department hsame => exact hunit _ hsame

/-- More roles and more permissions allow whatever fewer allow. -/
theorem evaluateAccess_mono (hroles : r₁ ⊆ r₂)
    (hperms : ∀ roleId permission, HasPermission rolePermissionsMap roleId permission →
      HasPermission map' roleId permission)
    (h : evaluateAccess toLowerCase requiredPermission r₁ rolePermissionsMap targetResource
      currentEmployeeId = true) :
    evaluateAccess toLowerCase requiredPermission r₂ map' targetResource currentEmployeeId =
      true := by
  obtain ⟨role, hmem, hhas, hscope⟩ := evaluateAccess_iff.mp h
  exact evaluateAccess_iff.mpr ⟨role, hroles hmem, hperms _ _ hhas, hscope⟩

/-- Only which roles there are counts, not in what order or how often. -/
theorem evaluateAccess_congr (hsame : ∀ role, role ∈ r₁ ↔ role ∈ r₂) :
    evaluateAccess toLowerCase requiredPermission r₁ rolePermissionsMap targetResource
        currentEmployeeId =
      evaluateAccess toLowerCase requiredPermission r₂ rolePermissionsMap targetResource
        currentEmployeeId := by
  rw [Bool.eq_iff_iff]
  exact ⟨evaluateAccess_mono (fun role hrole => (hsame role).mp hrole) fun _ _ h => h,
    evaluateAccess_mono (fun role hrole => (hsame role).mpr hrole) fun _ _ h => h⟩

theorem evaluateAccess_append :
    evaluateAccess toLowerCase requiredPermission (r₁ ++ r₂) rolePermissionsMap targetResource
        currentEmployeeId =
      (evaluateAccess toLowerCase requiredPermission r₁ rolePermissionsMap targetResource
          currentEmployeeId ||
        evaluateAccess toLowerCase requiredPermission r₂ rolePermissionsMap targetResource
          currentEmployeeId) := by
  rw [Bool.eq_iff_iff, Bool.or_eq_true]
  simp only [evaluateAccess_iff, List.mem_append, or_and_right, exists_or]

/-- A role without a reference for its scope changes nothing. -/
theorem evaluateAccess_cons_of_lacksReference {role : EffectiveUserRole}
    (h : LacksReference role.scope) :
    evaluateAccess toLowerCase requiredPermission (role :: userRoles) rolePermissionsMap
        targetResource currentEmployeeId =
      evaluateAccess toLowerCase requiredPermission userRoles rolePermissionsMap targetResource
        currentEmployeeId := by
  have hnone : ¬(HasPermission rolePermissionsMap role.roleId requiredPermission ∧
      Satisfies toLowerCase targetResource currentEmployeeId role.scope) := fun hrole =>
    not_satisfies_of_lacksReference h hrole.2
  rw [Bool.eq_iff_iff, evaluateAccess_iff, evaluateAccess_iff, List.exists_mem_cons_iff,
    or_iff_right hnone]

/-- `rolePermissionsMap` with one more permission for a role. -/
def addPermission (rolePermissionsMap : JsMap String (List String)) (roleId permission : String) :
    JsMap String (List String) :=
  rolePermissionsMap.set roleId ((rolePermissionsMap.get roleId).getD [] ++ [permission])

theorem HasPermission.addPermission {roleId permission added k : String}
    (h : HasPermission rolePermissionsMap k permission) :
    HasPermission (addPermission rolePermissionsMap roleId added) k permission := by
  obtain ⟨perms, hperms, hmem⟩ := h
  unfold HasPermission CumulativeAccessEvaluator.addPermission
  rw [JsMap.get_set]
  split
  next hk =>
    subst hk
    refine ⟨_, rfl, ?_⟩
    rw [hperms]
    exact List.mem_append_left _ hmem
  next hk => exact ⟨perms, hperms, hmem⟩

/-- The decision is the union over the roles of what each gives within its own scope. -/
theorem cumulative_access (toLowerCase : String → String) (permission : String)
    (map : JsMap String (List String)) (resource : ResourceContext) (employeeId : String) :
    let allows roles map := evaluateAccess toLowerCase permission roles map resource employeeId
    (∀ roles, allows roles map = true ↔
      ∃ role ∈ roles, HasPermission map role.roleId permission ∧
        Satisfies toLowerCase resource employeeId role.scope) ∧
    (∀ r₁ r₂, allows (r₁ ++ r₂) map = (allows r₁ map || allows r₂ map)) ∧
    (∀ r₁ r₂, (∀ role, role ∈ r₁ ↔ role ∈ r₂) → allows r₁ map = allows r₂ map) ∧
    (∀ r₁ r₂, r₁ ⊆ r₂ → allows r₁ map = true → allows r₂ map = true) ∧
    (∀ roles roleId added, allows roles map = true →
      allows roles (addPermission map roleId added) = true) ∧
    ∀ roles role, LacksReference role.scope → allows (role :: roles) map = allows roles map := by
  intro allows
  refine ⟨fun roles => evaluateAccess_iff, fun r₁ r₂ => evaluateAccess_append,
    fun r₁ r₂ => evaluateAccess_congr, fun r₁ r₂ hroles => ?_, fun roles roleId added => ?_,
    fun roles role => evaluateAccess_cons_of_lacksReference⟩
  · exact evaluateAccess_mono hroles fun _ _ h => h
  · exact evaluateAccess_mono (List.Subset.refl roles) fun _ _ h => h.addPermission

/-- A permission of one role is not exercised within the scope of another. -/
example :
    evaluateAccess id "employee.view"
      [⟨"employee", ⟨"SELF", none⟩, "g1"⟩, ⟨"payroll", ⟨"TENANT_WIDE", none⟩, "g2"⟩]
      (.ofEntries [("employee", ["employee.view"]), ("payroll", ["payroll.run"])])
      { employeeId := some "e2" } "e1" = false := by
  decide

end AccessService.Authorization.CumulativeAccessEvaluator
